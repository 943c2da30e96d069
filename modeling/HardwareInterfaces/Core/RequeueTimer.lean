import Mathlib

/-!
# Timers that re-queue their own event

A timer is armed with a stamp, whose end is computed from it, and owns the
events waiting in a queue.  Arming it again does not queue an event when it is
armed already for an earlier end: the waiting event is expected to queue itself
again when it is handled too early.

A timer is covered if it is never armed without an event, timely if one of its
events comes no later than its end, and single if it never has two events.  Only
the first is an invariant; for the other two, and for properties of the stamp,
this file gives the exact conditions under which a step keeps them.
-/

namespace HardwareInterfaces.RequeueTimer

variable {Stamp Time : Type*} [LinearOrder Time] {ends : Stamp → Time}

/-- The stamp of an armed timer, and the deadlines of its waiting events. -/
@[ext]
structure Timer (ends : Stamp → Time) where
  armed : Option Stamp
  pending : Multiset Time

inductive Event (Stamp Time : Type*) where
  | idle
  /-- Arm the timer until the end of the stamp. -/
  | arm (stamp : Stamp)
  /-- Ask for an event as `arm` does, without arming. -/
  | probe (stamp : Stamp)
  | disarm
  /-- Change the stamp of an armed timer, leaving its events alone. -/
  | retime (change : Stamp → Stamp)
  /-- Handle a waiting event whose deadline has come. -/
  | fire (deadline now : Time)

/-- The events that neither request an event nor change the stamp of a
timer. -/
def Event.Passive : Event Stamp Time → Prop
  | .idle => True
  | .disarm => True
  | .fire _ _ => True
  | _ => False

namespace Timer

variable (timer : Timer ends)

/-- Whether a request for this deadline queues an event. -/
def NeedsEvent (deadline : Time) : Prop :=
  ∀ stamp ∈ timer.armed, deadline < ends stamp

instance (deadline : Time) : Decidable (timer.NeedsEvent deadline) := by
  unfold NeedsEvent
  infer_instance

def request (deadline : Time) : Multiset Time :=
  if timer.NeedsEvent deadline then deadline ::ₘ timer.pending
  else timer.pending

/-- The timer once one of its events has been taken from the queue and
handled. -/
def handled (now : Time) (rest : Multiset Time) : Timer ends :=
  match timer.armed with
  | none => ⟨none, rest⟩
  | some stamp =>
    if ends stamp ≤ now then ⟨none, rest⟩
    else ⟨some stamp, ends stamp ::ₘ rest⟩

def step : Event Stamp Time → Option (Timer ends)
  | .idle => some timer
  | .arm stamp => some ⟨some stamp, timer.request (ends stamp)⟩
  | .probe stamp => some ⟨timer.armed, timer.request (ends stamp)⟩
  | .disarm => some ⟨none, timer.pending⟩
  | .retime change => some ⟨timer.armed.map change, timer.pending⟩
  | .fire deadline now =>
    if deadline ∈ timer.pending ∧ deadline ≤ now then
      some (timer.handled now (timer.pending.erase deadline))
    else none

/-- An armed timer has an event. -/
def Covered : Prop :=
  timer.armed.isSome → timer.pending ≠ 0

/-- An armed timer has an event that comes no later than its end. -/
def Timely : Prop :=
  ∀ stamp ∈ timer.armed, ∃ deadline ∈ timer.pending, deadline ≤ ends stamp

def Single : Prop :=
  timer.pending.card ≤ 1

variable {timer} {next : Timer ends} {deadline : Time}

theorem mem_request_of_needsEvent (hneeds : timer.NeedsEvent deadline) :
    deadline ∈ timer.request deadline := by
  rw [request, if_pos hneeds]
  exact Multiset.mem_cons_self deadline timer.pending

theorem request_of_not_needsEvent (hneeds : ¬ timer.NeedsEvent deadline) :
    timer.request deadline = timer.pending :=
  if_neg hneeds

theorem pending_le_request (deadline : Time) :
    timer.pending ≤ timer.request deadline := by
  rw [request]
  split_ifs
  · exact Multiset.le_cons_self timer.pending deadline
  · exact le_refl timer.pending

/-- A request that queues nothing finds the timer armed for no later. -/
theorem exists_armed_of_not_needsEvent (hneeds : ¬ timer.NeedsEvent deadline) :
    ∃ stamp ∈ timer.armed, ends stamp ≤ deadline := by
  simpa only [NeedsEvent, not_forall, not_lt, exists_prop] using hneeds

theorem handled_of_ended {stamp : Stamp} {now : Time}
    (harmed : timer.armed = some stamp) (hended : ends stamp ≤ now)
    (rest : Multiset Time) : timer.handled now rest = ⟨none, rest⟩ := by
  rw [handled, harmed]
  exact if_pos hended

/-! ## Coverage -/

theorem Covered.request_ne_zero (hcovered : timer.Covered) (deadline : Time) :
    timer.request deadline ≠ 0 := by
  by_cases hneeds : timer.NeedsEvent deadline
  · rw [request, if_pos hneeds]
    exact Multiset.cons_ne_zero
  · obtain ⟨stamp, harmed, -⟩ := exists_armed_of_not_needsEvent hneeds
    rw [request_of_not_needsEvent hneeds]
    exact hcovered (Option.isSome_iff_exists.mpr ⟨stamp, harmed⟩)

theorem covered_handled (now : Time) (rest : Multiset Time) :
    (timer.handled now rest).Covered := by
  rw [handled]
  cases timer.armed with
  | none => exact fun harmed => absurd harmed Bool.false_ne_true
  | some stamp =>
    dsimp only
    split_ifs
    · exact fun harmed => absurd harmed Bool.false_ne_true
    · exact fun _ => Multiset.cons_ne_zero

variable {event : Event Stamp Time}

/-- No sequence of events leaves a timer armed with nothing to expire it. -/
theorem Covered.step (hcovered : timer.Covered)
    (hstep : timer.step event = some next) : next.Covered := by
  cases event with
  | idle =>
    cases hstep
    exact hcovered
  | arm | probe =>
    cases hstep
    exact fun _ => hcovered.request_ne_zero _
  | disarm =>
    cases hstep
    exact fun harmed => absurd harmed Bool.false_ne_true
  | retime =>
    cases hstep
    intro harmed
    rw [Option.isSome_map] at harmed
    exact hcovered harmed
  | fire deadline now =>
    simp only [Timer.step, Option.ite_none_right_eq_some,
      Option.some.injEq] at hstep
    rw [← hstep.2]
    exact covered_handled now _

/-! ## Timeliness -/

/-- A request to a timely timer leaves an event no later than its deadline. -/
theorem Timely.exists_le_of_request (htimely : timer.Timely)
    (deadline : Time) :
    ∃ waiting ∈ timer.request deadline, waiting ≤ deadline := by
  by_cases hneeds : timer.NeedsEvent deadline
  · exact ⟨deadline, mem_request_of_needsEvent hneeds, le_refl deadline⟩
  · obtain ⟨stamp, harmed, hle⟩ := exists_armed_of_not_needsEvent hneeds
    obtain ⟨waiting, hmem, hwaiting⟩ := htimely stamp harmed
    rw [request_of_not_needsEvent hneeds]
    exact ⟨waiting, hmem, hwaiting.trans hle⟩

/-- Timeliness is exactly what makes every request punctual. -/
theorem timely_iff_forall_request :
    timer.Timely ↔ ∀ stamp, ∃ waiting ∈ timer.request (ends stamp),
      waiting ≤ ends stamp := by
  constructor
  · exact fun htimely stamp => htimely.exists_le_of_request (ends stamp)
  · intro hpunctual stamp harmed
    have hneeds : ¬ timer.NeedsEvent (ends stamp) :=
      fun hneeds => lt_irrefl (ends stamp) (hneeds stamp harmed)
    obtain ⟨waiting, hmem, hle⟩ := hpunctual stamp
    rw [request_of_not_needsEvent hneeds] at hmem
    exact ⟨waiting, hmem, hle⟩

/-- Moving the end of an armed timer keeps it timely exactly when an event is
already due by the new end. -/
def RetimeGuard (timer : Timer ends) : Event Stamp Time → Prop
  | .retime change => ∀ stamp ∈ timer.armed,
    ∃ waiting ∈ timer.pending, waiting ≤ ends (change stamp)
  | _ => True

theorem retimeGuard_of_passive (hpassive : event.Passive) :
    timer.RetimeGuard event := by
  cases event with
  | retime => exact hpassive.elim
  | _ => trivial

theorem timely_handled (now : Time) (rest : Multiset Time) :
    (timer.handled now rest).Timely := by
  rw [handled]
  cases timer.armed with
  | none => simp [Timely]
  | some stamp =>
    dsimp only
    split_ifs
    · simp [Timely]
    · simp [Timely]

/-- A step keeps a timer timely exactly when it meets the guard. -/
theorem timely_step_iff (htimely : timer.Timely)
    (hstep : timer.step event = some next) :
    next.Timely ↔ timer.RetimeGuard event := by
  cases event with
  | idle =>
    cases hstep
    exact iff_of_true htimely trivial
  | arm stamp =>
    cases hstep
    refine iff_of_true (fun armed harmed => ?_) trivial
    cases harmed
    exact htimely.exists_le_of_request (ends stamp)
  | probe =>
    cases hstep
    refine iff_of_true (fun armed harmed => ?_) trivial
    obtain ⟨waiting, hmem, hle⟩ := htimely armed harmed
    exact ⟨waiting, Multiset.mem_of_le (pending_le_request _) hmem, hle⟩
  | disarm =>
    cases hstep
    refine iff_of_true (fun armed harmed => ?_) trivial
    cases harmed
  | retime =>
    cases hstep
    exact Option.forall_mem_map
  | fire deadline now =>
    simp only [Timer.step, Option.ite_none_right_eq_some,
      Option.some.injEq] at hstep
    rw [← hstep.2]
    exact iff_of_true (timely_handled now _) trivial

/-! ## Uniqueness -/

/-- A request keeps the event unique exactly when it queues nothing or finds
no event. -/
def RequestGuard (timer : Timer ends) : Event Stamp Time → Prop
  | .arm stamp | .probe stamp =>
    timer.NeedsEvent (ends stamp) → timer.pending = 0
  | _ => True

theorem requestGuard_of_passive (hpassive : event.Passive) :
    timer.RequestGuard event := by
  cases event with
  | arm | probe => exact hpassive.elim
  | _ => trivial

theorem card_request_le_one_iff (hsingle : timer.Single) (deadline : Time) :
    (timer.request deadline).card ≤ 1 ↔
      (timer.NeedsEvent deadline → timer.pending = 0) := by
  by_cases hneeds : timer.NeedsEvent deadline
  · have hcard : timer.pending.card + 1 ≤ 1 ↔ timer.pending.card = 0 := by
      omega
    rw [request, if_pos hneeds, Multiset.card_cons, hcard,
      Multiset.card_eq_zero]
    simp only [hneeds, forall_const]
  · rw [request_of_not_needsEvent hneeds]
    exact iff_of_true hsingle fun h => absurd h hneeds

theorem card_handled_le (now : Time) (rest : Multiset Time) :
    (timer.handled now rest).pending.card ≤ rest.card + 1 := by
  rw [handled]
  cases timer.armed with
  | none => exact Nat.le_succ rest.card
  | some stamp =>
    dsimp only
    split_ifs
    · exact Nat.le_succ rest.card
    · rw [Multiset.card_cons]

/-- A step keeps the event unique exactly when it meets the guard. -/
theorem single_step_iff (hsingle : timer.Single)
    (hstep : timer.step event = some next) :
    next.Single ↔ timer.RequestGuard event := by
  cases event with
  | idle =>
    cases hstep
    exact iff_of_true hsingle trivial
  | arm stamp | probe stamp =>
    cases hstep
    exact card_request_le_one_iff hsingle (ends stamp)
  | disarm | retime =>
    cases hstep
    exact iff_of_true hsingle trivial
  | fire deadline now =>
    simp only [Timer.step, Option.ite_none_right_eq_some,
      Option.some.injEq] at hstep
    obtain ⟨⟨hmem, -⟩, hnext⟩ := hstep
    refine iff_of_true ?_ trivial
    rw [← hnext]
    calc (timer.handled now (timer.pending.erase deadline)).pending.card
        ≤ (timer.pending.erase deadline).card + 1 := card_handled_le now _
      _ = timer.pending.card := Multiset.card_erase_add_one hmem
      _ ≤ 1 := hsingle

/-! ## Stamps -/

/-- A property of the stamp of an armed timer. -/
def Bears (good : Stamp → Prop) (timer : Timer ends) : Prop :=
  ∀ stamp ∈ timer.armed, good stamp

def StampGuard (good : Stamp → Prop) (timer : Timer ends) :
    Event Stamp Time → Prop
  | .arm stamp => good stamp
  | .retime change => timer.Bears fun stamp => good (change stamp)
  | _ => True

omit [LinearOrder Time] in
theorem stampGuard_of_passive {good : Stamp → Prop} (hpassive : event.Passive) :
    timer.StampGuard good event := by
  cases event with
  | arm | retime => exact hpassive.elim
  | _ => trivial

/-- A step keeps the property exactly when the stamp it sets has it. -/
theorem bears_step_iff {good : Stamp → Prop} (hbears : timer.Bears good)
    (hstep : timer.step event = some next) :
    next.Bears good ↔ timer.StampGuard good event := by
  cases event with
  | idle | probe =>
    cases hstep
    exact iff_of_true hbears trivial
  | arm stamp =>
    cases hstep
    simp [Bears, StampGuard]
  | disarm =>
    cases hstep
    refine iff_of_true (fun stamp harmed => ?_) trivial
    cases harmed
  | retime =>
    cases hstep
    exact Option.forall_mem_map
  | fire deadline now =>
    simp only [Timer.step, Option.ite_none_right_eq_some,
      Option.some.injEq] at hstep
    refine iff_of_true (fun stamp harmed => ?_) trivial
    rw [← hstep.2, handled] at harmed
    split at harmed
    · cases harmed
    · rename_i armed hold
      split_ifs at harmed
      · cases harmed
      · exact hbears stamp (hold.trans harmed)

end Timer

end HardwareInterfaces.RequeueTimer

import HardwareInterfaces.Fingerprint.Service

/-!
# Enumerations of fingers

The device names the enrolled fingers one by one.  The names are collected in
a list that belongs to no session and no enumeration in particular, and are
delivered with the last of them.
-/

namespace HardwareInterfaces.Fingerprint

open Transition

/-! ## Deliveries -/

/-- The fingers that a callback delivers. -/
def Effect.enumerated : Effect → Option (List Int)
  | .callback (.onEnrollmentsEnumerated enrollments) => some enrollments
  | _ => none

/-- The finger that a message names, and whether it is the last one. -/
def Event.finger : Event → Option (Int × Bool)
  | .notify (.templateEnumerating fid remainingTemplates) =>
    some (fid, decide (remainingTemplates = 0))
  | _ => none

/-- The names collected, after one more. -/
def collect (names : List Int) : Option (Int × Bool) → List Int
  | none => names
  | some (_, true) => []
  | some (fid, false) => names ++ [fid]

/-- The lists delivered with one more name. -/
def deliveries (names : List Int) : Option (Int × Bool) → List (List Int)
  | some (fid, true) => [names ++ [fid]]
  | _ => []

namespace Session

variable {util : Util} {now : Int}

/-- The lists that the last handler delivered. -/
def enumerated (session : Session) : List (List Int) :=
  session.effects.filterMap Effect.enumerated

theorem enumerated_emit (session : Session) (effects : List Effect) :
    (session.emit effects).enumerated =
      session.enumerated ++ effects.filterMap Effect.enumerated :=
  List.filterMap_append

theorem enumerated_of_notifies {session next : Session}
    (hnotifies : session.Notifies next) :
    next.enumerated = session.enumerated := by
  obtain ⟨added, hadded, hnotices⟩ := hnotifies
  have hnone : added.filterMap Effect.enumerated = [] := by
    rw [List.filterMap_eq_nil_iff]
    intro effect hmem
    have hnotice := hnotices effect hmem
    revert hnotice
    fun_cases Effect.enumerated effect
    · exact nofun
    · exact fun _ => rfl
  rw [enumerated, hadded, List.filterMap_append, hnone, List.append_nil]
  rfl

theorem enumerated_notify (session : Session) (enrollments : List Int)
    (message : Message) :
    (session.notify util now enrollments message).1.enumerated =
        session.enumerated ++
          deliveries enrollments (Event.notify message).finger ∧
      (session.notify util now enrollments message).2 =
        collect enrollments (Event.notify message).finger := by
  cases message with
  | authenticated fid =>
    simp only [notify]
    split_ifs
    · exact ⟨enumerated_emit _ _, rfl⟩
    · rw [enumerated_of_notifies (notifies_checkSensorLockout _)]
      exact ⟨enumerated_emit _ _, rfl⟩
  | templateEnumerating =>
    simp only [notify, Event.finger]
    split_ifs with hlast
    · rw [decide_eq_true hlast]
      exact ⟨enumerated_emit _ _, rfl⟩
    · rw [decide_eq_false hlast]
      exact ⟨(List.append_nil _).symm, rfl⟩
  | _ => exact ⟨enumerated_emit _ _, rfl⟩

theorem enumerated_authenticate (session : Session) (operationId error : Int) :
    (session.authenticate util now operationId error).enumerated =
      session.enumerated := by
  rw [authenticate, enumerated_of_notifies (notifies_reportError _ error),
    enumerated_emit, enumerated_of_notifies (notifies_checkSensorLockout _)]
  exact List.append_nil _

section

variable {session next : Session} {enrollments enrollments' : List Int}
  {event : Event}
  (hhandle : session.handle util now enrollments event = some (next,
    enrollments'))
include hhandle

/-- Handlers of calls and timers neither deliver nor collect. -/
theorem enumerated_handle_call (hcall : ∀ message, event ≠ .notify message) :
    next.enumerated = [] ∧ enrollments' = enrollments := by
  cases event with
  | notify message => exact absurd rfl (hcall message)
  | authenticate operationId error =>
    cases hhandle
    exact ⟨enumerated_authenticate _ operationId error, rfl⟩
  | authenticateWithContext operationId error =>
    cases hhandle
    exact ⟨enumerated_authenticate _ operationId error, rfl⟩
  | enroll error =>
    cases hhandle
    exact ⟨enumerated_of_notifies (notifies_reportError _ error), rfl⟩
  | removeEnrollments =>
    cases hhandle
    simp [enumerated, emit, Effect.enumerated]
  | resetLockout =>
    cases hhandle
    exact ⟨enumerated_of_notifies (notifies_resetLockout _), rfl⟩
  | cancel ret =>
    cases hhandle
    rw [cancel]
    split_ifs <;> exact ⟨rfl, rfl⟩
  | timerExpires index =>
    simp only [handle] at hhandle
    split at hhandle
    · cases hhandle
    · split_ifs at hhandle
      cases hhandle
      exact ⟨enumerated_of_notifies (notifies_lockoutTimerExpired _), rfl⟩
  | _ =>
    cases hhandle
    exact ⟨rfl, rfl⟩

/-- Only messages to an open session add to the list and deliver it. -/
theorem enumerated_handle :
    next.enumerated =
        (if session.mClosed then [] else deliveries enrollments event.finger) ∧
      enrollments' =
        (if session.mClosed then enrollments
          else collect enrollments event.finger) := by
  cases event with
  | notify message =>
    simp only [handle] at hhandle
    split_ifs at hhandle ⊢
    · cases hhandle
      exact ⟨rfl, rfl⟩
    · have hnotify := @enumerated_notify util now { session with effects := [] }
        enrollments message
      rw [Option.some.inj hhandle] at hnotify
      exact hnotify
  | _ =>
    obtain ⟨hnext, hlist⟩ :=
      enumerated_handle_call hhandle (by rintro message ⟨⟩)
    rw [hnext, hlist]
    exact ⟨(ite_self _).symm, (ite_self _).symm⟩

end

end Session

/-! ## Runs of the service -/

/-- The service, with the names of the enumeration that is going on. -/
structure Enumerating where
  service : Service
  found : List Int

namespace Enumerating

variable {util : Util} {enumerating next : Enumerating} {label : ServiceLabel}

/-- The finger that a message to an open session names. -/
def finger (enumerating : Enumerating) (label : ServiceLabel) :
    Option (Int × Bool) :=
  match label.request, enumerating.service.mSession with
  | .onSession event, some session =>
    if session.mClosed then none else event.finger
  | _, _ => none

/-- The names that follow belong to a new enumeration: a session is opened, or
an open one has the device enumerate. -/
def begins (enumerating : Enumerating) (label : ServiceLabel) : Bool :=
  match label.request with
  | .createSession _ => true
  | .onSession event =>
    enumerating.service.mSession.any fun session =>
      !session.mClosed && decide (event = .enumerateEnrollments 0)

def foundAfter (enumerating : Enumerating) (label : ServiceLabel) : List Int :=
  if enumerating.begins label then []
  else collect enumerating.found (enumerating.finger label)

def step (util : Util) (enumerating : Enumerating) (label : ServiceLabel) :
    Option Enumerating :=
  (enumerating.service.step util label).map fun next =>
    { service := next
      found := enumerating.foundAfter label }

/-- The lists that the last request delivered. -/
def delivered (enumerating : Enumerating) : List (List Int) :=
  (enumerating.service.mSession.map Session.enumerated).getD []

/-- Whatever comes next delivers the names of the enumeration that is going on,
when it is the last of them, and nothing else. -/
def DeliversOwn (util : Util) (enumerating : Enumerating) : Prop :=
  ∀ label next, enumerating.step util label = some next →
    next.delivered =
      deliveries enumerating.found (enumerating.finger label)

/-- An enumeration begins only when none is unfinished. -/
def BeginsEmpty (enumerating : Enumerating) (label : ServiceLabel) : Prop :=
  enumerating.begins label = true → enumerating.service.enrollments = []

instance (enumerating : Enumerating) : DecidablePred enumerating.BeginsEmpty :=
  fun _ => inferInstanceAs (Decidable (_ → _))

/-- What a step does to the list, and what it delivers. -/
theorem step_lists (hstep : enumerating.step util label = some next) :
    next.service.enrollments =
        collect enumerating.service.enrollments (enumerating.finger label) ∧
      next.delivered =
        deliveries enumerating.service.enrollments
          (enumerating.finger label) := by
  obtain ⟨service, hservice, rfl⟩ := Option.map_eq_some_iff.mp hstep
  rcases Service.step_cases hservice with
    ⟨userId, hrequest, hsession, henrollments⟩ |
    ⟨event, hrequest, hnone, hnone', henrollments⟩ |
    ⟨event, session, session', hrequest, hsession, hsession', hhandle⟩
  · have hfinger : enumerating.finger label = none := by
      rw [finger, hrequest]
    rw [hfinger, delivered, hsession]
    exact ⟨henrollments, rfl⟩
  · have hfinger : enumerating.finger label = none := by
      rw [finger, hrequest, hnone]
    rw [hfinger, delivered, hnone']
    exact ⟨henrollments, rfl⟩
  · have hfinger : enumerating.finger label =
        if session.mClosed then none else event.finger := by
      rw [finger, hrequest, hsession]
    obtain ⟨hlists, henrollments⟩ := Session.enumerated_handle hhandle
    rw [hfinger, delivered, hsession']
    refine ⟨henrollments.trans ?_, hlists.trans ?_⟩
    · split_ifs <;> rfl
    · split_ifs <;> rfl

/-- The list holds the names that an open session can be given with the next
one. -/
def Unmixed (enumerating : Enumerating) : Prop :=
  ∀ session ∈ enumerating.service.mSession, session.mClosed = false →
    enumerating.service.enrollments = enumerating.found

theorem deliversOwn_iff_unmixed :
    enumerating.DeliversOwn util ↔ enumerating.Unmixed := by
  constructor
  · -- A last name may come at once.
    intro hown session hsession hopen
    let last : ServiceLabel := ⟨enumerating.service.clock,
      .onSession (.notify (.templateEnumerating 0 0))⟩
    have hfinger : enumerating.finger last = some (0, true) := by
      simp [finger, last, Option.mem_def.mp hsession, hopen, Event.finger]
    obtain ⟨next, hstep⟩ : ∃ next, enumerating.step util last = some next := by
      simp [step, Service.step, Service.handle, Option.mem_def.mp hsession,
        Session.handle, hopen, last]
    have hlists := hown last next hstep
    rw [(step_lists hstep).2, hfinger] at hlists
    simpa [deliveries] using hlists
  · intro hunmixed label next hstep
    rw [(step_lists hstep).2]
    fun_cases finger enumerating label with
    | case1 => rfl
    | case2 event session hsession _ hopen =>
      rw [hunmixed session hsession (Bool.eq_false_iff.mpr hopen)]
    | case3 => rfl

/-- A step keeps the list unmixed exactly when it begins no enumeration or the
list is empty. -/
theorem unmixed_step_iff (hunmixed : enumerating.Unmixed)
    (hstep : enumerating.step util label = some next) :
    next.Unmixed ↔ enumerating.BeginsEmpty label := by
  obtain ⟨hlist, -⟩ := step_lists hstep
  obtain ⟨service, hservice, rfl⟩ := Option.map_eq_some_iff.mp hstep
  simp only at hlist
  rcases Service.step_cases hservice with
    ⟨userId, hrequest, hsession, henrollments⟩ |
    ⟨event, hrequest, hnone, hnone', -⟩ |
    ⟨event, session, session', hrequest, hsession, hsession', hhandle⟩
  · have hbegins : enumerating.begins label = true := by
      rw [begins, hrequest]
    simp [Unmixed, BeginsEmpty, hsession, henrollments, foundAfter, hbegins]
  · have hbegins : enumerating.begins label = false := by
      rw [begins, hrequest, hnone]
      rfl
    simp [Unmixed, BeginsEmpty, hnone', hbegins]
  · have hclosed := Session.mClosed_handle hhandle
    have hbegins : enumerating.begins label =
        (!session.mClosed && decide (event = .enumerateEnrollments 0)) := by
      rw [begins, hrequest, hsession]
      rfl
    cases hopen : session.mClosed with
    | true =>
      rw [hopen, Bool.true_or] at hclosed
      simp [Unmixed, BeginsEmpty, hsession', hclosed, hbegins, hopen]
    | false =>
      have hsame := hunmixed session hsession hopen
      by_cases hevent : event = .enumerateEnrollments 0
      · subst hevent
        have hfinger : enumerating.finger label = none := by
          rw [finger, hrequest, hsession]
          exact ite_self _
        rw [hfinger, collect] at hlist
        simp [Unmixed, BeginsEmpty, hsession', hclosed, hbegins, hopen, hlist,
          foundAfter]
      · simp [Unmixed, BeginsEmpty, hsession', hbegins, hevent, hlist, hsame,
          foundAfter]

theorem unmixed_of_no_session {service : Service}
    (hnew : service.mSession = none) (found : List Int) :
    Unmixed ⟨service, found⟩ := by
  intro session hsession
  rw [hnew] at hsession
  cases hsession

theorem runHolds_deliversOwn_iff {init : Enumerating} (hinit : init.Unmixed)
    (labels : List ServiceLabel) :
    RunHolds (step util) (DeliversOwn util) init labels ↔
      RunMeets (step util) BeginsEmpty init labels := by
  have hsound : ∀ state : Enumerating, state.Unmixed → state.DeliversOwn util :=
    fun _ => deliversOwn_iff_unmixed.mpr
  refine runHolds_iff_runMeets hsound ?_ ?_ hinit labels
  · intro _ _ _ hunmixed hbegins hstep
    exact (unmixed_step_iff hunmixed hstep).mpr hbegins
  · intro _ _ _ hunmixed hbegins hstep hown
    exact hbegins ((unmixed_step_iff hunmixed hstep).mp
      (deliversOwn_iff_unmixed.mp hown))

/-- Along a run every list delivered, and every list that a name might deliver
next, is that of the enumeration which ends with it exactly when enumerations
begin only while the shared list is empty. -/
theorem deliveries_own_iff_begin_empty {service : Service}
    (hnew : service.mSession = none) (labels : List ServiceLabel) :
    RunHolds (step util) (DeliversOwn util) ⟨service, []⟩ labels ↔
      RunMeets (step util) BeginsEmpty ⟨service, []⟩ labels :=
  runHolds_deliversOwn_iff (unmixed_of_no_session hnew []) labels

def named (fid remainingTemplates : Int) : ServiceLabel :=
  ⟨2, .onSession (.notify (.templateEnumerating fid remainingTemplates))⟩

/-- Two enumerations in one session; a name without a session is dropped. -/
theorem deliveries_own_one_by_one :
    RunHolds (step .inMillis) (DeliversOwn .inMillis) ⟨Counted.sample, []⟩
      [named 3 0, ⟨2, .createSession 0⟩,
        ⟨2, .onSession (.enumerateEnrollments 0)⟩, named 7 1, named 9 0,
        ⟨2, .onSession (.enumerateEnrollments 0)⟩, named 7 0] :=
  (deliveries_own_iff_begin_empty rfl _).mpr (by decide +kernel)

/-- The first session is closed after the first of two names; the enumeration
of the second session delivers that name too. -/
theorem deliveries_not_always_own :
    (run (step .inMillis) ⟨Counted.sample, []⟩
      [⟨2, .createSession 0⟩, named 7 1, ⟨2, .onSession .close⟩, named 8 0,
        ⟨2, .createSession 0⟩, named 9 0]).map delivered = some [[7, 9]] ∧
    ¬ RunHolds (step .inMillis) (DeliversOwn .inMillis) ⟨Counted.sample, []⟩
      [⟨2, .createSession 0⟩, named 7 1, ⟨2, .onSession .close⟩, named 8 0,
        ⟨2, .createSession 0⟩, named 9 0] := by
  refine ⟨by decide +kernel, ?_⟩
  rw [runHolds_deliversOwn_iff (unmixed_of_no_session rfl [])]
  decide +kernel

end Enumerating

end HardwareInterfaces.Fingerprint

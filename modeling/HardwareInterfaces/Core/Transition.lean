import Mathlib

/-!
# Runs of a partial step function

A component is given by a step function that returns `none` when a label is
not enabled.  This file collects the run-level rules used by every component:
an invariant preserved by each step holds after each run, and a property that
each step preserves exactly when it meets a guard holds along a run exactly
when all the steps taken meet the guard.
-/

namespace HardwareInterfaces.Transition

variable {State Label : Type*} (step : State → Label → Option State)

/-- The state after the labels, or `none` once one of them is not enabled. -/
def run : State → List Label → Option State
  | state, [] => some state
  | state, label :: labels =>
    (step state label).bind fun next => run next labels

/-- The property holds in every state of the run, first and last included. -/
def RunHolds (property : State → Prop) : State → List Label → Prop
  | state, [] => property state
  | state, label :: labels =>
    property state ∧
      ∀ next, step state label = some next → RunHolds property next labels

/-- Every step that the run takes meets the guard in the state it leaves. -/
def RunMeets (guard : State → Label → Prop) : State → List Label → Prop
  | _, [] => True
  | state, label :: labels =>
    ∀ next, step state label = some next →
      guard state label ∧ RunMeets guard next labels

instance decidableRunHolds {property : State → Prop}
    [DecidablePred property] :
    ∀ state labels, Decidable (RunHolds step property state labels)
  | state, [] => inferInstanceAs (Decidable (property state))
  | state, label :: labels =>
    match hstep : step state label with
    | none => decidable_of_iff (property state) (by simp [RunHolds, hstep])
    | some next =>
      have : Decidable (RunHolds step property next labels) :=
        decidableRunHolds next labels
      decidable_of_iff
        (property state ∧ RunHolds step property next labels)
        (by simp [RunHolds, hstep])

instance decidableRunMeets {guard : State → Label → Prop}
    [∀ state label, Decidable (guard state label)] :
    ∀ state labels, Decidable (RunMeets step guard state labels)
  | _, [] => isTrue trivial
  | state, label :: labels =>
    match hstep : step state label with
    | none => isTrue (by simp [RunMeets, hstep])
    | some next =>
      have : Decidable (RunMeets step guard next labels) :=
        decidableRunMeets next labels
      decidable_of_iff
        (guard state label ∧ RunMeets step guard next labels)
        (by simp [RunMeets, hstep])

/-- States that some run reaches from `init`. -/
def Reachable (init state : State) : Prop :=
  ∃ labels, run step init labels = some state

variable {step} {state init : State} {labels : List Label}

theorem run_cons_eq_some {last : State} {label : Label} :
    run step state (label :: labels) = some last ↔
      ∃ next, step state label = some next ∧ run step next labels = some last := by
  simp only [run, Option.bind_eq_some_iff]

theorem run_append (state : State) (left right : List Label) :
    run step state (left ++ right) =
      (run step state left).bind fun next => run step next right := by
  induction left generalizing state with
  | nil => rfl
  | cons label labels ih =>
    cases hstep : step state label with
    | none => simp [run, hstep]
    | some next => simp [run, hstep, ih next]

/-- A run of a step function that is always enabled. -/
theorem run_eq_foldl (next : State → Label → State) (state : State)
    (labels : List Label) :
    run (fun state label => some (next state label)) state labels =
      some (labels.foldl next state) := by
  induction labels generalizing state with
  | nil => rfl
  | cons label labels ih => exact ih (next state label)

theorem Reachable.refl (init : State) : Reachable step init init :=
  ⟨[], rfl⟩

theorem Reachable.tail {next : State} {label : Label}
    (hreach : Reachable step init state)
    (hstep : step state label = some next) : Reachable step init next := by
  obtain ⟨labels, hrun⟩ := hreach
  refine ⟨labels ++ [label], ?_⟩
  rw [run_append, hrun]
  simp [run, hstep]

/-- An invariant of every step holds after every run. -/
theorem run_invariant {invariant : State → Prop}
    (hstep : ∀ state label next, invariant state →
      step state label = some next → invariant next)
    {last : State} (hinit : invariant init)
    (hrun : run step init labels = some last) : invariant last := by
  induction labels generalizing init with
  | nil =>
    cases hrun
    exact hinit
  | cons label labels ih =>
    obtain ⟨next, hnext, hrest⟩ := run_cons_eq_some.mp hrun
    exact ih (hstep init label next hinit hnext) hrest

/-- An invariant may speak of what has been remembered of the labels. -/
theorem run_invariant_of_history {History : Type*}
    {remember : History → Label → History}
    {invariant : State → History → Prop}
    (hstep : ∀ state history label next, invariant state history →
      step state label = some next → invariant next (remember history label))
    {last : State} {history : History} (hinit : invariant init history)
    (hrun : run step init labels = some last) :
    invariant last (labels.foldl remember history) := by
  induction labels generalizing init history with
  | nil =>
    cases hrun
    exact hinit
  | cons label labels ih =>
    obtain ⟨next, hnext, hrest⟩ := run_cons_eq_some.mp hrun
    exact ih (hstep init history label next hinit hnext) hrest

theorem Reachable.invariant {invariant : State → Prop}
    (hstep : ∀ state label next, invariant state →
      step state label = some next → invariant next)
    (hinit : invariant init) (hreach : Reachable step init state) :
    invariant state := by
  obtain ⟨labels, hrun⟩ := hreach
  exact run_invariant hstep hinit hrun

variable {property : State → Prop} {guard guard' : State → Label → Prop}

/-- A property implied by an invariant holds in every state of a run of allowed
labels. -/
theorem runHolds_of_invariant_of_allowed {invariant : State → Prop}
    {allowed : Label → Prop}
    (hsound : ∀ state, invariant state → property state)
    (hstep : ∀ state label next, allowed label → invariant state →
      step state label = some next → invariant next)
    (hinit : invariant init) (hlabels : ∀ label ∈ labels, allowed label) :
    RunHolds step property init labels := by
  induction labels generalizing init with
  | nil => exact hsound init hinit
  | cons label labels ih =>
    obtain ⟨hfirst, hrest⟩ := List.forall_mem_cons.mp hlabels
    refine ⟨hsound init hinit, ?_⟩
    intro next hnext
    exact ih (hstep init label next hfirst hinit hnext) hrest

/-- A property implied by an invariant holds in every state of every run. -/
theorem runHolds_of_invariant {invariant : State → Prop}
    (hsound : ∀ state, invariant state → property state)
    (hstep : ∀ state label next, invariant state →
      step state label = some next → invariant next)
    (hinit : invariant init) (labels : List Label) :
    RunHolds step property init labels :=
  runHolds_of_invariant_of_allowed hsound
    (fun state label next _ => hstep state label next) hinit
    fun _ _ => trivial

theorem RunHolds.first (hholds : RunHolds step property init labels) :
    property init := by
  cases labels with
  | nil => exact hholds
  | cons label labels => exact hholds.1

theorem RunHolds.last {last : State}
    (hholds : RunHolds step property init labels)
    (hrun : run step init labels = some last) : property last := by
  induction labels generalizing init with
  | nil =>
    cases hrun
    exact hholds
  | cons label labels ih =>
    obtain ⟨next, hnext, hrest⟩ := run_cons_eq_some.mp hrun
    exact ih (hholds.2 next hnext) hrest

theorem RunHolds.imp {property' : State → Prop}
    (himp : ∀ state, property state → property' state)
    (hholds : RunHolds step property init labels) :
    RunHolds step property' init labels := by
  induction labels generalizing init with
  | nil => exact himp init hholds
  | cons label labels ih =>
    exact ⟨himp init hholds.1, fun next hnext => ih (hholds.2 next hnext)⟩

/-- An invariant of the steps into states with a property holds along a run
of such states. -/
theorem RunHolds.invariant {invariant : State → Prop}
    (hstep : ∀ state label next, invariant state →
      step state label = some next → property next → invariant next)
    (hinit : invariant init) (hholds : RunHolds step property init labels) :
    RunHolds step invariant init labels := by
  induction labels generalizing init with
  | nil => exact hinit
  | cons label labels ih =>
    refine ⟨hinit, fun next hnext => ?_⟩
    have hrest := hholds.2 next hnext
    exact ih (hstep init label next hinit hnext hrest.first) hrest

/-- A property of both ends of a step may imply a guard. -/
theorem RunHolds.runMeets
    (hguard : ∀ state label next, property state →
      step state label = some next → property next → guard state label)
    (hholds : RunHolds step property init labels) :
    RunMeets step guard init labels := by
  induction labels generalizing init with
  | nil => trivial
  | cons label labels ih =>
    intro next hnext
    have hrest := hholds.2 next hnext
    exact ⟨hguard init label next hholds.1 hnext hrest.first, ih hrest⟩

/-- Guards that agree on the steps taken are met by the same runs. -/
theorem runMeets_congr
    (hguards : ∀ state label next, step state label = some next →
      (guard state label ↔ guard' state label))
    (init : State) (labels : List Label) :
    RunMeets step guard init labels ↔ RunMeets step guard' init labels := by
  induction labels generalizing init with
  | nil => exact Iff.rfl
  | cons label labels ih =>
    refine forall_congr' fun next => forall_congr' fun hnext => ?_
    exact and_congr (hguards init label next hnext) (ih next)

/-- An invariant of the steps that meet a guard holds after a run that meets
it. -/
theorem RunMeets.invariant {invariant : State → Prop}
    (hstep : ∀ state label next, invariant state → guard state label →
      step state label = some next → invariant next)
    {last : State} (hinit : invariant init)
    (hmeets : RunMeets step guard init labels)
    (hrun : run step init labels = some last) : invariant last := by
  induction labels generalizing init with
  | nil =>
    cases hrun
    exact hinit
  | cons label labels ih =>
    obtain ⟨next, hnext, hrest⟩ := run_cons_eq_some.mp hrun
    obtain ⟨hguard, hmeets⟩ := hmeets next hnext
    exact ih (hstep init label next hinit hguard hnext) hmeets hrest

/-- A property implied by an invariant of the steps that meet a guard holds in
every state of a run that meets it. -/
theorem RunMeets.runHolds {invariant : State → Prop}
    (hsound : ∀ state, invariant state → property state)
    (hkeep : ∀ state label next, invariant state → guard state label →
      step state label = some next → invariant next)
    (hinit : invariant init) (hmeets : RunMeets step guard init labels) :
    RunHolds step property init labels := by
  induction labels generalizing init with
  | nil => exact hsound init hinit
  | cons label labels ih =>
    refine ⟨hsound init hinit, fun next hnext => ?_⟩
    obtain ⟨hguard, hrest⟩ := hmeets next hnext
    exact ih (hkeep init label next hinit hguard hnext) hrest

/-- One guard may imply another where an invariant holds. -/
theorem RunMeets.imp {invariant : State → Prop}
    (himp : ∀ state label next, invariant state → guard state label →
      step state label = some next → guard' state label)
    (hkeep : ∀ state label next, invariant state → guard state label →
      step state label = some next → invariant next)
    (hinit : invariant init) (hmeets : RunMeets step guard init labels) :
    RunMeets step guard' init labels := by
  induction labels generalizing init with
  | nil => trivial
  | cons label labels ih =>
    intro next hnext
    obtain ⟨hguard, hrest⟩ := hmeets next hnext
    exact ⟨himp init label next hinit hguard hnext,
      ih (hkeep init label next hinit hguard hnext) hrest⟩

/-- Guards that agree where an invariant holds are met by the same runs. -/
theorem runMeets_congr_of_invariant {invariant : State → Prop}
    (hkeep : ∀ state label next, invariant state →
      step state label = some next → invariant next)
    (hguards : ∀ state label next, invariant state →
      step state label = some next → (guard state label ↔ guard' state label))
    (hinit : invariant init) (labels : List Label) :
    RunMeets step guard init labels ↔ RunMeets step guard' init labels := by
  constructor
  · exact RunMeets.imp
      (fun state label next hinv hguard hstep =>
        (hguards state label next hinv hstep).mp hguard)
      (fun state label next hinv _ => hkeep state label next hinv) hinit
  · exact RunMeets.imp
      (fun state label next hinv hguard hstep =>
        (hguards state label next hinv hstep).mpr hguard)
      (fun state label next hinv _ => hkeep state label next hinv) hinit

/-- When an allowed step leads to the property exactly from the property under
the guard, a run of allowed steps that starts with the property ends with it
exactly when all its steps meet the guard. -/
theorem RunMeets.last_iff {invariant : State → Prop}
    {allowed : State → Label → Prop}
    (hkeep : ∀ state label next, invariant state → allowed state label →
      step state label = some next → invariant next)
    (hstep : ∀ state label next, invariant state → allowed state label →
      step state label = some next →
        (property next ↔ property state ∧ guard state label))
    {last : State} (hinit : invariant init)
    (hallowed : RunMeets step allowed init labels)
    (hrun : run step init labels = some last) :
    property last ↔ property init ∧ RunMeets step guard init labels := by
  induction labels generalizing init with
  | nil =>
    cases hrun
    exact (and_iff_left trivial).symm
  | cons label labels ih =>
    obtain ⟨next, hnext, hrest⟩ := run_cons_eq_some.mp hrun
    obtain ⟨hfirst, hallowed⟩ := hallowed next hnext
    have hmeets : RunMeets step guard init (label :: labels) ↔
        guard init label ∧ RunMeets step guard next labels := by
      simp [RunMeets, hnext]
    rw [ih (hkeep init label next hinit hfirst hnext) hallowed hrest, hmeets,
      hstep init label next hinit hfirst hnext, and_assoc]

theorem runMeets_true (init : State) (labels : List Label) :
    RunMeets step (fun _ _ => True) init labels := by
  induction labels generalizing init with
  | nil => trivial
  | cons label labels ih => exact fun next _ => ⟨trivial, ih next⟩

/-- `RunMeets.last_iff` where every step is allowed. -/
theorem last_iff_runMeets {invariant : State → Prop}
    (hkeep : ∀ state label next, invariant state →
      step state label = some next → invariant next)
    (hstep : ∀ state label next, invariant state →
      step state label = some next →
        (property next ↔ property state ∧ guard state label))
    {last : State} (hinit : invariant init)
    (hrun : run step init labels = some last) :
    property last ↔ property init ∧ RunMeets step guard init labels :=
  RunMeets.last_iff (fun state label next hinv _ => hkeep state label next hinv)
    (fun state label next hinv _ => hstep state label next hinv) hinit
    (runMeets_true init labels) hrun

/-- When the guard keeps an invariant that implies the property, and a step
against the guard breaks the property at once, the guard is exactly the
condition for the property to hold all along a run of allowed labels. -/
theorem runHolds_iff_runMeets_of_allowed {invariant : State → Prop}
    {allowed : Label → Prop}
    (hsound : ∀ state, invariant state → property state)
    (hkeep : ∀ state label next, allowed label → invariant state →
      guard state label → step state label = some next → invariant next)
    (hbreak : ∀ state label next, allowed label → invariant state →
      ¬ guard state label → step state label = some next → ¬ property next)
    (hinit : invariant init) (hlabels : ∀ label ∈ labels, allowed label) :
    RunHolds step property init labels ↔ RunMeets step guard init labels := by
  induction labels generalizing init with
  | nil => exact ⟨fun _ => trivial, fun _ => hsound init hinit⟩
  | cons label labels ih =>
    have hfirst := hlabels label List.mem_cons_self
    have hrest : ∀ other ∈ labels, allowed other :=
      fun other hother => hlabels other (List.mem_cons_of_mem label hother)
    constructor
    · rintro ⟨-, hholds⟩ next hnext
      have hguard : guard init label := by
        by_contra hbad
        exact hbreak init label next hfirst hinit hbad hnext
          (hholds next hnext).first
      have hinv := hkeep init label next hfirst hinit hguard hnext
      exact ⟨hguard, (ih hinv hrest).mp (hholds next hnext)⟩
    · intro hmeets
      refine ⟨hsound init hinit, fun next hnext => ?_⟩
      obtain ⟨hguard, hmeets'⟩ := hmeets next hnext
      have hinv := hkeep init label next hfirst hinit hguard hnext
      exact (ih hinv hrest).mpr hmeets'

theorem runHolds_iff_runMeets {invariant : State → Prop}
    (hsound : ∀ state, invariant state → property state)
    (hkeep : ∀ state label next, invariant state → guard state label →
      step state label = some next → invariant next)
    (hbreak : ∀ state label next, invariant state → ¬ guard state label →
      step state label = some next → ¬ property next)
    (hinit : invariant init) (labels : List Label) :
    RunHolds step property init labels ↔ RunMeets step guard init labels :=
  runHolds_iff_runMeets_of_allowed hsound
    (fun state label next _ => hkeep state label next)
    (fun state label next _ => hbreak state label next) hinit
    fun _ _ => trivial

/-! ## Labels that are not enabled -/

variable (step) in
/-- Every label meets the guard in the state in which it is tried, also one
that is not enabled and ends the run. -/
def RunObeys (guard : State → Label → Prop) : State → List Label → Prop
  | _, [] => True
  | state, label :: labels =>
    guard state label ∧
      ∀ next, step state label = some next → RunObeys guard next labels

instance decidableRunObeys {guard : State → Label → Prop}
    [∀ state label, Decidable (guard state label)] :
    ∀ state labels, Decidable (RunObeys step guard state labels)
  | _, [] => isTrue trivial
  | state, label :: labels =>
    match hstep : step state label with
    | none => decidable_of_iff (guard state label) (by simp [RunObeys, hstep])
    | some next =>
      have : Decidable (RunObeys step guard next labels) :=
        decidableRunObeys next labels
      decidable_of_iff
        (guard state label ∧ RunObeys step guard next labels)
        (by simp [RunObeys, hstep])

/-- Guards that agree on the labels where an invariant holds, which one of them
keeps, are obeyed by the same runs. -/
theorem runObeys_congr_of_invariant {invariant : State → Prop}
    (hguards : ∀ state, ∀ label ∈ labels, invariant state →
      (guard state label ↔ guard' state label))
    (hkeep : ∀ state, ∀ label ∈ labels, ∀ next, invariant state →
      guard' state label → step state label = some next → invariant next)
    (hinit : invariant init) :
    RunObeys step guard init labels ↔ RunObeys step guard' init labels := by
  induction labels generalizing init with
  | nil => exact Iff.rfl
  | cons label labels ih =>
    rw [RunObeys, RunObeys, hguards init label List.mem_cons_self hinit]
    refine and_congr_right fun hguard => forall_congr' fun next =>
      forall_congr' fun hnext => ?_
    apply ih
    · intro state other hother
      exact hguards state other (List.mem_cons_of_mem label hother)
    · intro state other hother
      exact hkeep state other (List.mem_cons_of_mem label hother)
    · exact hkeep init label List.mem_cons_self next hinit hguard hnext

/-! ## Steps that can fail -/

/-- A computation in two parts succeeds when both of them do. -/
theorem bind_eq_ok {Error Value Result : Type} {first : Except Error Value}
    {second : Value → Except Error Result} {result : Result} :
    (first >>= second) = .ok result ↔
      ∃ value, first = .ok value ∧ second value = .ok result := by
  cases first with
  | error error => exact ⟨nofun, nofun⟩
  | ok value =>
    constructor
    · intro hok
      exact ⟨value, rfl, hok⟩
    · rintro ⟨_, ⟨⟩, hok⟩
      exact hok

end HardwareInterfaces.Transition

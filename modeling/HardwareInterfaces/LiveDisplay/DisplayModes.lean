import HardwareInterfaces.Core.Transition

/-!
# Display modes

The backend holds the list of modes and two registers, the active and the
default mode.  `setDisplayMode` writes the first register and then, if asked to,
the second one.  It returns early when the mode is active already, without a
look at the second register, and does not undo the first write when the second
one fails.

Every call of the backend may fail.  How the calls of one request end is part of
the request; a write that succeeds is what the next read returns.
-/

namespace HardwareInterfaces.LiveDisplay

open Transition

structure DisplayMode where
  id : Int
  name : String
  deriving DecidableEq, Repr

inductive Status where
  | ok
  | unsupportedOperation
  deriving DecidableEq, Repr

/-- What the backend keeps. -/
structure Backend where
  modes : List DisplayMode
  active : Int
  default : Int
  deriving DecidableEq, Repr

/-- Which calls of the backend succeed during one request.  The list of modes
may be read twice. -/
structure Answers where
  getActive : Bool := true
  getModesForActive : Bool := true
  getModes : Bool := true
  setActive : Bool := true
  setDefault : Bool := true
  deriving DecidableEq, Repr

/-- How a request ends; `notified` if the registered callback is called. -/
structure Outcome where
  status : Status
  backend : Backend
  notified : Bool := false
  deriving DecidableEq, Repr

namespace Backend

variable (backend : Backend) (answers : Answers)

def getDisplayModesInternal (answered : Bool) : List DisplayMode :=
  if answered then backend.modes else []

def getDisplayModeById (answered : Bool) (id : Int) : Option DisplayMode :=
  (backend.getDisplayModesInternal answered).find? fun mode => mode.id = id

def getCurrentDisplayModeInternal : Option DisplayMode :=
  if answers.getActive ∧ 0 ≤ backend.active then
    backend.getDisplayModeById answers.getModesForActive backend.active
  else none

def setDisplayMode (modeID : Int) (makeDefault : Bool) : Outcome :=
  if (backend.getCurrentDisplayModeInternal answers).any (·.id = modeID) then
    { status := .ok, backend }
  else
    match backend.getDisplayModeById answers.getModes modeID with
    | none => { status := .unsupportedOperation, backend }
    | some _ =>
      if answers.setActive then
        let backend := { backend with active := modeID }
        if makeDefault then
          if answers.setDefault then
            { status := .ok
              backend := { backend with default := modeID }
              notified := true }
          else { status := .unsupportedOperation, backend }
        else { status := .ok, backend, notified := true }
      else { status := .unsupportedOperation, backend }

def getDefaultDisplayModeInternal (answered : Bool) (getModes : Bool) :
    Option DisplayMode :=
  if answered ∧ 0 ≤ backend.default then
    backend.getDisplayModeById getModes backend.default
  else none

def isReady (featureSupported : Bool) (answered : Bool) : Bool :=
  featureSupported && !(backend.getDisplayModesInternal answered).isEmpty

/-- The constructor makes the default mode the active one; nothing checks that
it succeeds.  Without a backend the service ends. -/
def construct (featureSupported : Bool) (getDefault : Bool)
    (getModes : Bool) : Option Backend :=
  if backend.isReady featureSupported getModes then
    match backend.getDefaultDisplayModeInternal getDefault getModes with
    | none => some backend
    | some mode => some (backend.setDisplayMode answers mode.id false).backend
  else none

/-! ## What a request promises -/

/-- A request that succeeds has set the registers it was asked to set; one that
fails has set none. -/
structure Keeps (modeID : Int) (makeDefault : Bool) (outcome : Outcome) :
    Prop where
  active : outcome.status = .ok → outcome.backend.active = modeID
  default : outcome.status = .ok → makeDefault = true →
    outcome.backend.default = modeID
  unchanged : outcome.status ≠ .ok → outcome.backend = backend

/-- The mode is found to be the active one. -/
def ShowsActive (modeID : Int) : Prop :=
  answers.getActive = true ∧ 0 ≤ backend.active ∧
    backend.active = modeID ∧
    (backend.getDisplayModeById answers.getModesForActive modeID).isSome = true

/-- A mode that is to become the default one is the default one already if it
is found to be active, and otherwise its second write does not fail after the
first one has changed the active mode. -/
def DefaultFollows (modeID : Int) (makeDefault : Bool) : Prop :=
  makeDefault = true →
    (backend.ShowsActive answers modeID → backend.default = modeID) ∧
    (¬ backend.ShowsActive answers modeID →
      (backend.getDisplayModeById answers.getModes modeID).isSome = true →
        answers.setActive = true → backend.active ≠ modeID →
          answers.setDefault = true)

instance (modeID : Int) : Decidable (backend.ShowsActive answers modeID) :=
  inferInstanceAs (Decidable (_ ∧ _ ∧ _ ∧ _))

instance (modeID : Int) (makeDefault : Bool) :
    Decidable (backend.DefaultFollows answers modeID makeDefault) :=
  inferInstanceAs (Decidable (_ → _))

variable {backend answers} {modeID : Int} {makeDefault : Bool}

theorem id_of_getDisplayModeById {answered : Bool} {id : Int}
    {mode : DisplayMode}
    (hmode : backend.getDisplayModeById answered id = some mode) :
    mode.id = id := by
  have hid := List.find?_some hmode
  exact of_decide_eq_true hid

/-- The early return is taken exactly for the mode that is found active. -/
theorem any_getCurrentDisplayModeInternal_iff :
    (backend.getCurrentDisplayModeInternal answers).any (·.id = modeID) =
        true ↔ backend.ShowsActive answers modeID := by
  rw [getCurrentDisplayModeInternal, ShowsActive]
  split_ifs with hread
  · cases hmode : backend.getDisplayModeById answers.getModesForActive
      backend.active with
    | none =>
      refine iff_of_false Bool.false_ne_true ?_
      rintro ⟨-, -, rfl, hsome⟩
      rw [hmode] at hsome
      exact Bool.false_ne_true hsome
    | some mode =>
      rw [Option.any_some, decide_eq_true_eq, id_of_getDisplayModeById hmode]
      constructor
      · rintro rfl
        exact ⟨hread.1, hread.2, rfl, by rw [hmode]; rfl⟩
      · exact fun hshows => hshows.2.2.1
  · exact iff_of_false Bool.false_ne_true fun hshows =>
      hread ⟨hshows.1, hshows.2.1⟩

/-- The ways a request can end. -/
inductive Sets (backend : Backend) (answers : Answers) (modeID : Int)
    (makeDefault : Bool) : Outcome → Prop where
  | already (hshows : backend.ShowsActive answers modeID) :
      Sets backend answers modeID makeDefault { status := .ok, backend }
  | unknown (hshows : ¬ backend.ShowsActive answers modeID)
      (hmode : (backend.getDisplayModeById answers.getModes modeID).isSome =
        false) :
      Sets backend answers modeID makeDefault
        { status := .unsupportedOperation, backend }
  | activeFails (hshows : ¬ backend.ShowsActive answers modeID)
      (hset : answers.setActive = false) :
      Sets backend answers modeID makeDefault
        { status := .unsupportedOperation, backend }
  | activeOnly (hdefault : makeDefault = false) :
      Sets backend answers modeID makeDefault
        { status := .ok
          backend := { backend with active := modeID }
          notified := true }
  | defaultFails (hdefault : makeDefault = true)
      (hshows : ¬ backend.ShowsActive answers modeID)
      (hmode : (backend.getDisplayModeById answers.getModes modeID).isSome =
        true) (hactive : answers.setActive = true)
      (hset : answers.setDefault = false) :
      Sets backend answers modeID makeDefault
        { status := .unsupportedOperation
          backend := { backend with active := modeID } }
  | both (hshows : ¬ backend.ShowsActive answers modeID)
      (hset : answers.setDefault = true) :
      Sets backend answers modeID makeDefault
        { status := .ok
          backend := { backend with active := modeID, default := modeID }
          notified := true }

theorem sets_setDisplayMode (backend : Backend) (answers : Answers)
    (modeID : Int) (makeDefault : Bool) :
    backend.Sets answers modeID makeDefault
      (backend.setDisplayMode answers modeID makeDefault) := by
  rw [setDisplayMode]
  by_cases hshows : backend.ShowsActive answers modeID
  · rw [if_pos (any_getCurrentDisplayModeInternal_iff.mpr hshows)]
    exact .already hshows
  rw [if_neg (mt any_getCurrentDisplayModeInternal_iff.mp hshows)]
  cases hmode : backend.getDisplayModeById answers.getModes modeID with
  | none => exact .unknown hshows (by rw [hmode]; rfl)
  | some mode =>
    dsimp only
    split_ifs with hactive hdefault hset
    · exact .both hshows hset
    · exact .defaultFails hdefault hshows (by rw [hmode]; rfl) hactive
        (Bool.eq_false_iff.mpr hset)
    · exact .activeOnly (Bool.eq_false_iff.mpr hdefault)
    · exact .activeFails hshows (Bool.eq_false_iff.mpr hactive)

theorem keeps_of_unchanged {outcome : Outcome}
    (hstatus : outcome.status ≠ .ok) (hsame : outcome.backend = backend) :
    backend.Keeps modeID makeDefault outcome :=
  ⟨fun hok => absurd hok hstatus, fun hok => absurd hok hstatus, fun _ => hsame⟩

/-- However a request ends, it keeps its promise exactly when the default mode
can follow the active one. -/
theorem Sets.keeps_iff {outcome : Outcome}
    (hsets : backend.Sets answers modeID makeDefault outcome) :
    backend.Keeps modeID makeDefault outcome ↔
      backend.DefaultFollows answers modeID makeDefault := by
  cases hsets with
  | already hshows =>
    constructor
    · intro hkeeps hdefault
      exact ⟨fun _ => hkeeps.default rfl hdefault,
        fun hnot => absurd hshows hnot⟩
    · intro hfollows
      exact ⟨fun _ => hshows.2.2.1,
        fun _ hdefault => (hfollows hdefault).1 hshows,
        fun herror => absurd rfl herror⟩
  | unknown hshows hmode =>
    refine iff_of_true (keeps_of_unchanged nofun rfl) fun _ => ?_
    refine ⟨fun hyes => absurd hyes hshows, fun _ hsome => ?_⟩
    exact absurd (hmode.symm.trans hsome) Bool.false_ne_true
  | activeFails hshows hset =>
    refine iff_of_true (keeps_of_unchanged nofun rfl) fun _ => ?_
    refine ⟨fun hyes => absurd hyes hshows, fun _ _ hactive => ?_⟩
    exact absurd (hset.symm.trans hactive) Bool.false_ne_true
  | activeOnly hdefault =>
    have hmake : ¬ makeDefault = true := Bool.eq_false_iff.mp hdefault
    exact iff_of_true
      ⟨fun _ => rfl, fun _ hyes => absurd hyes hmake, fun h => absurd rfl h⟩
      fun hyes => absurd hyes hmake
  | defaultFails hdefault hshows hmode hactive hset =>
    -- The register that was written keeps its new value, so the failure goes
    -- unseen only if that is its old value.
    constructor
    · intro hkeeps _
      have hsame : modeID = backend.active :=
        congrArg Backend.active (hkeeps.unchanged nofun)
      exact ⟨fun hyes => absurd hyes hshows,
        fun _ _ _ hchanged => absurd hsame.symm hchanged⟩
    · intro hfollows
      have hsame : backend.active = modeID := by
        by_contra hchanged
        have hsecond := (hfollows hdefault).2 hshows hmode hactive hchanged
        exact absurd (hset.symm.trans hsecond) Bool.false_ne_true
      exact keeps_of_unchanged nofun (by rw [← hsame])
  | both hshows hset =>
    exact iff_of_true
      ⟨fun _ => rfl, fun _ _ => rfl, fun herror => absurd rfl herror⟩
      fun _ => ⟨fun hyes => absurd hyes hshows, fun _ _ _ _ => hset⟩

/-- A request keeps its promise exactly when the default mode can follow the
active one. -/
theorem set_keeps_iff_default_follows (backend : Backend) (answers : Answers)
    (modeID : Int) (makeDefault : Bool) :
    backend.Keeps modeID makeDefault
        (backend.setDisplayMode answers modeID makeDefault) ↔
      backend.DefaultFollows answers modeID makeDefault :=
  (sets_setDisplayMode backend answers modeID makeDefault).keeps_iff

/-- The active mode is not made the default one, and a failed second write
leaves the first one in place. -/
theorem set_leaves_default_behind :
    ¬ Keeps ⟨[⟨0, "standard"⟩, ⟨1, "vivid"⟩], 1, 0⟩ 1 true
        (setDisplayMode ⟨[⟨0, "standard"⟩, ⟨1, "vivid"⟩], 1, 0⟩ {} 1 true) ∧
      ¬ Keeps ⟨[⟨0, "standard"⟩, ⟨1, "vivid"⟩], 0, 0⟩ 1 true
        (setDisplayMode ⟨[⟨0, "standard"⟩, ⟨1, "vivid"⟩], 0, 0⟩
          { setDefault := false } 1 true) := by
  constructor
  · intro hkeeps
    exact absurd (hkeeps.default (by decide) rfl) (by decide)
  · intro hkeeps
    exact absurd (hkeeps.unchanged (by decide)) (by decide)

/-! ## Modes over time -/

inductive Action where
  | construct (answers : Answers) (featureSupported getDefault getModes : Bool)
  | setDisplayMode (answers : Answers) (modeID : Int) (makeDefault : Bool)
  deriving DecidableEq, Repr

def step (backend : Backend) : Action → Option Backend
  | .construct answers featureSupported getDefault getModes =>
    backend.construct answers featureSupported getDefault getModes
  | .setDisplayMode answers modeID makeDefault =>
    some (backend.setDisplayMode answers modeID makeDefault).backend

/-- Both registers have kept their value or hold the id of a mode on offer. -/
structure Offered (start last : Backend) : Prop where
  modes : last.modes = start.modes
  active : last.active = start.active ∨
    ∃ mode ∈ start.modes, mode.id = last.active
  default : last.default = start.default ∨
    ∃ mode ∈ start.modes, mode.id = last.default

theorem Offered.setDisplayMode {start : Backend}
    (hoffered : Offered start backend) :
    Offered start
      (backend.setDisplayMode answers modeID makeDefault).backend := by
  rw [Backend.setDisplayMode]
  cases hmode : backend.getDisplayModeById answers.getModes modeID with
  | none => split_ifs <;> exact hoffered
  | some mode =>
    have hmem : mode ∈ start.modes := by
      have hread := List.mem_of_find?_eq_some hmode
      rw [getDisplayModesInternal, hoffered.modes] at hread
      split_ifs at hread
      · exact hread
      · cases hread
    have hnew : ∃ mode ∈ start.modes, mode.id = modeID :=
      ⟨mode, hmem, id_of_getDisplayModeById hmode⟩
    dsimp only
    split_ifs
    · exact hoffered
    · exact ⟨hoffered.modes, .inr hnew, .inr hnew⟩
    · exact ⟨hoffered.modes, .inr hnew, hoffered.default⟩
    · exact ⟨hoffered.modes, .inr hnew, hoffered.default⟩
    · exact hoffered

end Backend

end HardwareInterfaces.LiveDisplay

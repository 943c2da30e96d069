import HardwareInterfaces.Core.Transition

/-!
# Modes and boosts

The service turns modes and boosts into hints, and drops launches and boosts as
long as the sustained performance mode is on.  A hint is known by the mode or
boost that gives it its name.
-/

namespace HardwareInterfaces.PowerModes

open Transition

inductive Mode where
  | sustainedPerformance
  | launch
  /-- A mode that the service does not tell apart. -/
  | other (name : String)
  deriving DecidableEq, Repr

inductive Boost where
  | interaction
  | other (name : String)
  deriving DecidableEq, Repr

inductive Hint where
  | mode (type : Mode)
  | boost (type : Boost)
  deriving DecidableEq, Repr

/-- Calls of the hint manager, the interaction handler and the session
manager. -/
inductive Effect where
  | doHint (hint : Hint) (durationMs : Option Int)
  | endHint (hint : Hint)
  | acquire (durationMs : Int)
  | updateHintMode (type : Mode) (enabled : Bool)
  deriving DecidableEq, Repr

structure Power where
  mSustainedPerfModeOn : Bool
  /-- Oldest first. -/
  log : List Effect

/-- A call, with what the hint manager and the device say to it. -/
inductive Action where
  | setMode (type : Mode) (enabled isAdpfSupported deviceSpecific : Bool)
  | setBoost (type : Boost) (durationMs : Int)
  deriving DecidableEq, Repr

namespace Power

variable (power : Power)

def emit (effect : Effect) : Power :=
  { power with log := power.log ++ [effect] }

/-- The constructor reads three properties. -/
def new (state audio rendering : String) : Power :=
  let power : Power :=
    if state = "SUSTAINED_PERFORMANCE" then
      ⟨true, [.doHint (.mode .sustainedPerformance) none]⟩
    else ⟨false, []⟩
  let power :=
    if audio = "AUDIO_STREAMING_LOW_LATENCY" then
      power.emit (.doHint (.mode (.other audio)) none)
    else power
  if rendering = "EXPENSIVE_RENDERING" then
    power.emit (.doHint (.mode (.other rendering)) none)
  else power

def switchHint (type : Mode) (enabled : Bool) : Power :=
  if enabled then power.emit (.doHint (.mode type) none)
  else power.emit (.endHint (.mode type))

/-- The part of `setMode` after the session manager has been told. -/
def switchMode (type : Mode) (enabled : Bool) : Power :=
  match type with
  | .sustainedPerformance =>
    if enabled && !power.mSustainedPerfModeOn then
      { power.switchHint .sustainedPerformance true with
        mSustainedPerfModeOn := true }
    else if !enabled && power.mSustainedPerfModeOn then
      { power.switchHint .sustainedPerformance false with
        mSustainedPerfModeOn := false }
    else power
  | .launch =>
    if power.mSustainedPerfModeOn then power
    else power.switchHint .launch enabled
  | type => power.switchHint type enabled

def setMode (type : Mode) (enabled isAdpfSupported deviceSpecific : Bool) :
    Power :=
  let told :=
    if isAdpfSupported then power.emit (.updateHintMode type enabled)
    else power
  if deviceSpecific then told else told.switchMode type enabled

def setBoost (type : Boost) (durationMs : Int) : Power :=
  if power.mSustainedPerfModeOn then power
  else if type = .interaction then power.emit (.acquire durationMs)
  else if 0 < durationMs then
    power.emit (.doHint (.boost type) (some durationMs))
  else if durationMs = 0 then power.emit (.doHint (.boost type) none)
  else power.emit (.endHint (.boost type))

def step : Action → Option Power
  | .setMode type enabled isAdpfSupported deviceSpecific =>
    some (power.setMode type enabled isAdpfSupported deviceSpecific)
  | .setBoost type durationMs => some (power.setBoost type durationMs)

/-- Whether the sustained performance hint is held after an effect.  The hint
must not begin or end twice, and nothing may be launched or boosted with it. -/
def sustained (held : Bool) : Effect → Option Bool
  | .doHint (.mode .sustainedPerformance) _ => if held then none else some true
  | .endHint (.mode .sustainedPerformance) => if held then some false else none
  | .doHint (.mode (.other _)) _ | .endHint (.mode (.other _))
  | .updateHintMode _ _ => some held
  | _ => if held then none else some held

/-- The hints so far are in order, and the flag tells whether the sustained
performance hint is held. -/
def InOrder : Prop :=
  run sustained false power.log = some power.mSustainedPerfModeOn

variable {power}

theorem inOrder_new (state audio rendering : String) :
    (new state audio rendering).InOrder := by
  rw [new]
  split_ifs <;> rfl

theorem InOrder.emit (hlog : power.InOrder) {effect : Effect} {held : Bool}
    (hnext : sustained power.mSustainedPerfModeOn effect = some held) :
    InOrder { power.emit effect with mSustainedPerfModeOn := held } := by
  rw [InOrder] at *
  rw [Power.emit, run_append, hlog]
  exact run_cons_eq_some.mpr ⟨held, hnext, rfl⟩

theorem InOrder.switchMode (hlog : power.InOrder) (type : Mode)
    (enabled : Bool) : (power.switchMode type enabled).InOrder := by
  cases hon : power.mSustainedPerfModeOn
  all_goals
    cases enabled <;> cases type <;>
      simp only [Power.switchMode, switchHint, hon] <;>
      first
        | exact hlog
        | exact hlog.emit (by rw [hon]; rfl)

theorem InOrder.setMode (hlog : power.InOrder) (type : Mode)
    (enabled isAdpfSupported deviceSpecific : Bool) :
    (power.setMode type enabled isAdpfSupported deviceSpecific).InOrder := by
  have htold : InOrder (if isAdpfSupported then
      power.emit (.updateHintMode type enabled) else power) := by
    split_ifs
    · exact hlog.emit rfl
    · exact hlog
  rw [Power.setMode]
  generalize (if isAdpfSupported then
    power.emit (.updateHintMode type enabled) else power) = told at *
  split_ifs
  · exact htold
  · exact htold.switchMode type enabled

theorem InOrder.setBoost (hlog : power.InOrder) (type : Boost)
    (durationMs : Int) : (power.setBoost type durationMs).InOrder := by
  rw [Power.setBoost]
  split_ifs with hon
  · exact hlog
  all_goals exact hlog.emit (by rw [Bool.eq_false_iff.mpr hon]; rfl)

/-- Whatever is asked for, the sustained performance hint begins and ends in
turns, and no launch or boost comes in between. -/
theorem hints_in_order (state audio rendering : String)
    (actions : List Action) :
    RunHolds step InOrder (new state audio rendering) actions := by
  refine runHolds_of_invariant (fun _ hlog => hlog) ?_ (inOrder_new _ _ _)
    actions
  intro power action next hlog hstep
  cases action with
  | setMode type enabled isAdpfSupported deviceSpecific =>
    cases hstep
    exact hlog.setMode type enabled isAdpfSupported deviceSpecific
  | setBoost type durationMs =>
    cases hstep
    exact hlog.setBoost type durationMs

end Power

end HardwareInterfaces.PowerModes

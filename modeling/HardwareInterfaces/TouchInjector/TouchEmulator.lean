import HardwareInterfaces.TouchInjector.InputEvents

/-!
# The touch emulator

The emulator keeps which of the additional slots are touched, and builds the
packet of events for each change.  The packet goes to the merger; a packet
that cannot be written is reported, but the slot has changed by then.
-/

namespace HardwareInterfaces.TouchInjector

/-- Positions are in device units. -/
abbrev Position := Int × Int

/-- Whether a packet was written. -/
abbrev Emit := List InputEvent → Bool

inductive TouchError where
  | invalidSlotId
  | emitFailed
  deriving DecidableEq, Repr

structure TouchEmulator where
  slotStates : List Bool
  deriving DecidableEq, Repr

namespace TouchEmulator

variable (emit : Emit) (emulator : TouchEmulator)

def new (slotCount : Nat) : TouchEmulator where
  slotStates := List.replicate slotCount false

def touched : Bool := emulator.slotStates.any id

/-- The packet for a change of one slot. -/
def packet (slot : Nat) (pos : Option Position)
    (touchedBefore touchedAfter : Bool) : List InputEvent :=
  let isPress := pos.isSome
  let value : Int := if isPress then 1 else 0
  [.absolute .mtSlot (MachineArithmetic.int32 slot),
    .absolute .mtTrackingId (if isPress then 0 else noTrackingId)] ++
  (if isPress && !touchedBefore || !isPress && !touchedAfter then
    [.key .btnTouch value, .key .btnToolFinger value] else []) ++
  (match pos with
    | some (x, y) =>
      [.absolute (.mt .positionX) x, .absolute (.mt .positionY) y]
    | none => []) ++
  [.synReport]

structure TouchOutcome where
  error : Option TouchError
  /-- The packet that was handed to the merger. -/
  packet : Option (List InputEvent)
  emulator : TouchEmulator

/-- Change one slot; `none` is an index out of bounds. -/
def touch (slot : Nat) (pos : Option Position) : Option TouchOutcome :=
  if emulator.slotStates.length < slot then
    some { error := some .invalidSlotId, packet := none, emulator }
  else
    match emulator.slotStates[slot]? with
    | none => none
    | some state =>
      if state = pos.isSome then
        some { error := none, packet := none, emulator }
      else
        let emulator' : TouchEmulator :=
          { slotStates := emulator.slotStates.set slot pos.isSome }
        let queue :=
          packet slot pos emulator.touched emulator'.touched
        some
          { error := if emit queue then none else some .emitFailed
            packet := some queue
            emulator := emulator' }

/-- The source ignores how a touch ends, except for a panic. -/
def touchState (slot : Nat) (pos : Option Position) : Option TouchEmulator :=
  (emulator.touch emit slot pos).map TouchOutcome.emulator

def beginTouch (slot : Nat) (x y : Int) : Option TouchEmulator :=
  emulator.touchState emit slot (some (x, y))

def endTouch (slot : Nat) : Option TouchEmulator :=
  emulator.touchState emit slot none

def endAllTouches : Option TouchEmulator :=
  (List.range emulator.slotStates.length).foldlM
    (fun emulator slot =>
      if emulator.slotStates.getD slot false then emulator.endTouch emit slot
      else some emulator)
    emulator

/-! ## The slots after a touch -/

variable {emit : Emit} {emulator : TouchEmulator}

variable {slot : Nat}

/-- A touch of a slot that exists is ignored, or hands over a packet. -/
theorem touch_of_lt (emit : Emit) (hslot : slot < emulator.slotStates.length)
    (pos : Option Position) :
    emulator.slotStates[slot]? = some pos.isSome ∧
        emulator.touch emit slot pos =
          some { error := none, packet := none, emulator } ∨
      emulator.slotStates[slot]? = some (!pos.isSome) ∧
        ∃ outcome touchedAfter, emulator.touch emit slot pos = some outcome ∧
          outcome.packet =
            some (packet slot pos emulator.touched touchedAfter) ∧
          outcome.emulator = ⟨emulator.slotStates.set slot pos.isSome⟩ ∧
          touchedAfter = outcome.emulator.touched := by
  rw [touch, if_neg (not_lt.mpr hslot.le), List.getElem?_eq_getElem hslot]
  simp only
  by_cases hstate : emulator.slotStates[slot] = pos.isSome
  · rw [if_pos hstate]
    exact Or.inl ⟨congrArg some hstate, rfl⟩
  · rw [if_neg hstate]
    exact Or.inr ⟨congrArg some (Bool.eq_not.mpr hstate), _, _, rfl, rfl, rfl,
      rfl⟩

/-- A touch of a slot that exists sets its state, whether or not the packet
is written. -/
theorem touchState_of_lt (hslot : slot < emulator.slotStates.length)
    (pos : Option Position) :
    emulator.touchState emit slot pos =
      some { slotStates := emulator.slotStates.set slot pos.isSome } := by
  rw [touchState, touch, if_neg (not_lt.mpr hslot.le),
    List.getElem?_eq_getElem hslot]
  simp only
  by_cases hstate : emulator.slotStates[slot] = pos.isSome
  · rw [if_pos hstate, Option.map_some, ← hstate, List.set_getElem_self]
  · rw [if_neg hstate]
    rfl

/-- In all cases but a panic the slot gets its state, if there is one. -/
theorem slotStates_touchState {pos : Option Position} {next : TouchEmulator}
    (hnext : emulator.touchState emit slot pos = some next) :
    next.slotStates = emulator.slotStates.set slot pos.isSome := by
  rcases lt_trichotomy slot emulator.slotStates.length with hlt | heq | hgt
  · rw [touchState_of_lt hlt] at hnext
    rw [← Option.some.inj hnext]
  · rw [touchState, touch, if_neg (not_lt.mpr heq.le),
      List.getElem?_eq_none heq.ge] at hnext
    exact nomatch hnext
  · rw [touchState, touch, if_pos hgt] at hnext
    rw [← Option.some.inj hnext, List.set_eq_of_length_le hgt.le]

/-- Give several slots the same state. -/
def setAll (value : Bool) (states : List Bool) (slots : List Nat) : List Bool :=
  slots.foldl (fun states slot => states.set slot value) states

@[simp]
theorem length_setAll (value : Bool) (states : List Bool) (slots : List Nat) :
    (setAll value states slots).length = states.length := by
  induction slots generalizing states with
  | nil => rfl
  | cons slot slots ih =>
    rw [setAll, List.foldl_cons, ← setAll, ih, List.length_set]

theorem getElem?_setAll (value : Bool) (states : List Bool)
    (slots : List Nat) (slot : Nat) :
    (setAll value states slots)[slot]? =
      if slot ∈ slots then states[slot]?.map (Function.const Bool value)
      else states[slot]? := by
  induction slots generalizing states with
  | nil => rfl
  | cons first slots ih =>
    rw [setAll, List.foldl_cons, ← setAll, ih, List.getElem?_set']
    by_cases hmem : slot ∈ slots
    · by_cases hfirst : first = slot <;> simp [hmem, hfirst]
    · by_cases hfirst : first = slot
      · simp [hmem, hfirst]
      · simp [hmem, hfirst, Ne.symm hfirst]

/-- A loop that changes existing slots one after the other. -/
theorem foldlM_eq_setAll {Item : Type*} {value : Bool} {items : List Item}
    {change : TouchEmulator → Item → Option TouchEmulator} {slot : Item → Nat}
    (hchange : ∀ emulator item, item ∈ items →
      slot item < emulator.slotStates.length →
        change emulator item =
          some { slotStates := emulator.slotStates.set (slot item) value })
    {emulator : TouchEmulator}
    (hslots : ∀ item ∈ items, slot item < emulator.slotStates.length) :
    items.foldlM change emulator =
      some { slotStates :=
        setAll value emulator.slotStates (items.map slot) } := by
  induction items generalizing emulator with
  | nil => rfl
  | cons item items ih =>
    have hfirst := hchange emulator item List.mem_cons_self
      (hslots item List.mem_cons_self)
    rw [List.foldlM_cons, hfirst]
    apply ih
    · intro emulator' other hother
      exact hchange emulator' other (List.mem_cons_of_mem item hother)
    · intro other hother
      rw [List.length_set]
      exact hslots other (List.mem_cons_of_mem item hother)

/-- All slots are released, whatever the outcome of the single touches. -/
theorem endAllTouches_eq (emit : Emit) (emulator : TouchEmulator) :
    emulator.endAllTouches emit = some (new emulator.slotStates.length) := by
  have hloop : emulator.endAllTouches emit =
      some ⟨setAll false emulator.slotStates
        ((List.range emulator.slotStates.length).map id)⟩ := by
    apply foldlM_eq_setAll
    · intro emulator' slot _ hslot
      rw [id] at hslot ⊢
      rw [List.getD_eq_getElem?_getD, List.getElem?_eq_getElem hslot,
        Option.getD_some]
      cases hstate : emulator'.slotStates[slot] with
      | true =>
        rw [if_pos rfl]
        exact touchState_of_lt hslot none
      | false =>
        have hsame : emulator'.slotStates.set slot false =
            emulator'.slotStates := by
          rw [← hstate, List.set_getElem_self]
        rw [hsame]
        rfl
    · intro slot hslot
      exact List.mem_range.mp hslot
  rw [hloop, new, List.map_id]
  congr 2
  apply List.ext_getElem?
  intro slot
  rw [getElem?_setAll, List.getElem?_replicate]
  by_cases hslot : slot < emulator.slotStates.length
  · rw [if_pos (List.mem_range.mpr hslot), if_pos hslot,
      List.getElem?_eq_getElem hslot]
    rfl
  · rw [if_neg (mt List.mem_range.mp hslot), if_neg hslot,
      List.getElem?_eq_none (not_lt.mp hslot)]

end TouchEmulator

end HardwareInterfaces.TouchInjector

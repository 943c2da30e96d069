import HardwareInterfaces.Core.MachineArithmetic

/-!
# Input events

Touch screens report their contacts by the slot-based multi-touch protocol
(type B): an event selects a slot, later events speak of the contact in that
slot until another slot is selected.  A contact begins when its slot gets a
tracking id, and ends when the id becomes minus one.
-/

namespace HardwareInterfaces.TouchInjector

open MachineArithmetic

/-! ## Events -/

/-- The axes whose values belong to a slot. -/
inductive MtAxis where
  | positionX
  | positionY
  | other (code : Nat)
  deriving DecidableEq, Repr

inductive AbsoluteAxis where
  | mtSlot
  | mtTrackingId
  | mt (axis : MtAxis)
  | other (code : Nat)
  deriving DecidableEq, Repr

inductive Key where
  | btnTouch
  | btnToolFinger
  | other (code : Nat)
  deriving DecidableEq, Repr

/-- An event, by its type, code and value; the time is left out. -/
inductive InputEvent where
  | absolute (axis : AbsoluteAxis) (value : Int)
  | key (key : Key) (value : Int)
  | synReport
  | other (type code : Nat) (value : Int)
  deriving DecidableEq, Repr

/-- `-1`, which the source writes as `0xFFFFFFFFu32 as i32`. -/
def noTrackingId : Int := int32 0xFFFFFFFF

namespace InputEvent

/-- The slot that is selected after the event. -/
def select : InputEvent → Int → Int
  | .absolute .mtSlot slot, _ => slot
  | _, current => current

/-- What the event does to a slot that is selected: whether it has a contact,
and the values of its axes. -/
def effect :
    InputEvent → Bool × (MtAxis → Option Int) → Bool × (MtAxis → Option Int)
  | .absolute .mtTrackingId value, view =>
    (value != noTrackingId, view.2)
  | .absolute (.mt axis) value, view =>
    (view.1, Function.update view.2 axis (some value))
  | _, view => view

/-- The tracking id of the contact that the event begins. -/
def contactId : InputEvent → Option Int
  | .absolute .mtTrackingId value =>
    if value = noTrackingId then none else some value
  | _ => none

end InputEvent

/-- The tracking ids of the contacts that begin. -/
def contactIds (events : List InputEvent) : List Int :=
  events.filterMap InputEvent.contactId

/-! ## What a device shows -/

/-- The state of a touch screen as its readers see it. -/
structure DeviceState where
  currentSlot : Int
  trackingId : Int → Int
  axes : Int → MtAxis → Option Int
  btnTouch : Int

namespace DeviceState

/-- No contacts, slot zero selected. -/
def initial : DeviceState where
  currentSlot := 0
  trackingId := fun _ => noTrackingId
  axes := fun _ _ => none
  btnTouch := 0

def Active (device : DeviceState) (slot : Int) : Prop :=
  device.trackingId slot ≠ noTrackingId

instance (device : DeviceState) : DecidablePred device.Active :=
  fun _ => inferInstanceAs (Decidable (_ ≠ _))

def apply (device : DeviceState) : InputEvent → DeviceState
  | .absolute .mtSlot value => { device with currentSlot := value }
  | .absolute .mtTrackingId value =>
    { device with
      trackingId :=
        Function.update device.trackingId device.currentSlot value }
  | .absolute (.mt axis) value =>
    { device with
      axes := Function.update device.axes device.currentSlot
        (Function.update (device.axes device.currentSlot) axis
          (some value)) }
  | .key .btnTouch value => { device with btnTouch := value }
  | _ => device

def decode (device : DeviceState) (events : List InputEvent) : DeviceState :=
  events.foldl apply device

variable (device : DeviceState)

theorem decode_append (events events' : List InputEvent) :
    device.decode (events ++ events') =
      (device.decode events).decode events' :=
  List.foldl_append

/-- Whether the slot has a contact, and the values of its axes. -/
def shown (device : DeviceState) (slot : Int) :
    Bool × (MtAxis → Option Int) :=
  (device.trackingId slot != noTrackingId, device.axes slot)

theorem shown_fst_iff (slot : Int) :
    (device.shown slot).1 = true ↔ device.Active slot :=
  bne_iff_ne

theorem currentSlot_apply (event : InputEvent) :
    (device.apply event).currentSlot = event.select device.currentSlot := by
  rcases event with ⟨_ | _ | _ | _, _⟩ | ⟨_ | _ | _, _⟩ | _ | _ <;> rfl

/-- An event changes what the selected slot shows, and no other slot. -/
theorem shown_apply (event : InputEvent) (slot : Int) :
    (device.apply event).shown slot =
      if slot = device.currentSlot then event.effect (device.shown slot)
      else device.shown slot := by
  by_cases hslot : slot = device.currentSlot
  · rw [if_pos hslot, hslot]
    rcases event with ⟨_ | _ | _ | _, _⟩ | ⟨_ | _ | _, _⟩ | _ | _ <;>
      simp [apply, shown, InputEvent.effect]
  · rw [if_neg hslot]
    rcases event with ⟨_ | _ | _ | _, _⟩ | ⟨_ | _ | _, _⟩ | _ | _ <;>
      simp [apply, shown, Function.update_of_ne hslot]

end DeviceState

end HardwareInterfaces.TouchInjector

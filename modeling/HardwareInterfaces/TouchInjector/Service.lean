import HardwareInterfaces.Core.OrderedMap
import HardwareInterfaces.TouchInjector.TouchEmulator

/-!
# The touch injector service

Clients register for a number of slots and then begin and end touches on them.
The service hands out consecutive ranges of slots, remembers the pressed
positions, and passes touches on to the emulator.  When the ranges change, all
touches are lifted first and pressed again at their new slots afterwards.

The handlers are cut where they wait for a lock; each piece is a function of
its own, and a handler that runs undisturbed is their composition.  `none`
stands for a panic.  Sizes are 64-bit and overflow is checked.  Log messages
are left out, and so is the error path for touches that cannot be restored:
restoring them never reports an error.
-/

namespace HardwareInterfaces.TouchInjector

structure SlotRange where
  start : Nat
  stop : Nat
  deriving DecidableEq, Repr

def SlotRange.len (range : SlotRange) : Nat := range.stop - range.start

inductive Status where
  | ok
  | invalidArgument (message : String)
  /-- The error of a call to the client. -/
  | clientError
  deriving DecidableEq, Repr

def usizeBound : Nat := 2 ^ 64

/-- `value as usize` for a 32-bit integer. -/
def asUsize (value : Int) : Nat := (value % 2 ^ 64).toNat

def checkedAdd (left right : Nat) : Option Nat :=
  if left + right < usizeBound then some (left + right) else none

def checkedSub (left right : Nat) : Option Nat :=
  if right ≤ left then some (left - right) else none

/-- Multiplication of 32-bit integers. -/
def checkedMul (left right : Int) : Option Int :=
  if -2 ^ 31 ≤ left * right ∧ left * right < 2 ^ 31 then some (left * right)
  else none

/-- A vector of optional positions, twelve bytes each. -/
def emptyPositions (count : Nat) : Option (List (Option Position)) :=
  if count * 12 < 2 ^ 63 then some (List.replicate count none) else none

structure TouchInjectorService (Client : Type) [LinearOrder Client] where
  slotCount : Nat
  slotRangeMap : OrderedMap Client SlotRange
  pressedPositionMap : OrderedMap Client (List (Option Position))
  touchEmulator : TouchEmulator

namespace TouchInjectorService

variable {Client : Type} [LinearOrder Client] (emit : Emit)
  (service : TouchInjectorService Client) (client : Client)

def new (addSlotCount : Nat) : TouchInjectorService Client where
  slotCount := 0
  slotRangeMap := .empty
  pressedPositionMap := .empty
  touchEmulator := .new addSlotCount

/-! ## Pieces of the handlers -/

def isRegistered : Bool := (service.slotRangeMap.lookup client).isSome

def disableAllTouches : Option (TouchInjectorService Client) :=
  (service.touchEmulator.endAllTouches emit).map fun emulator =>
    { service with touchEmulator := emulator }

/-- The touches to press again, in the order of the clients. -/
def pressedTouches : List (Nat × Position) :=
  service.slotRangeMap.entries.flatMap fun entry =>
    match service.pressedPositionMap.lookup entry.1 with
    | none => []
    | some positions =>
      positions.zipIdx.filterMap fun pressed =>
        pressed.1.map fun position => (entry.2.start + pressed.2, position)

def enableAllTouches : Option (TouchInjectorService Client) :=
  (service.pressedTouches.foldlM
    (fun (emulator : TouchEmulator) touch =>
      emulator.beginTouch emit touch.1 touch.2.1 touch.2.2)
    service.touchEmulator).map fun emulator =>
      { service with touchEmulator := emulator }

/-- The range for a new client. -/
def newRange (count : Nat) : Option SlotRange :=
  (checkedAdd service.slotCount count).map fun stop =>
    { start := service.slotCount, stop }

def reserve (count : Nat) : Option (TouchInjectorService Client) :=
  (checkedAdd service.slotCount count).map fun slotCount =>
    { service with slotCount }

def insertRange (range : SlotRange) : TouchInjectorService Client :=
  { service with slotRangeMap := service.slotRangeMap.insert client range }

def insertPositions (count : Nat) : Option (TouchInjectorService Client) :=
  (emptyPositions count).map fun positions =>
    { service with
      pressedPositionMap :=
        service.pressedPositionMap.insert client positions }

/-- `slot_range_map.get(client).unwrap().len()` -/
def rangeLen : Option Nat :=
  (service.slotRangeMap.lookup client).map SlotRange.len

def release (count : Nat) : Option (TouchInjectorService Client) :=
  (checkedSub service.slotCount count).map fun slotCount =>
    { service with slotCount }

def removeRange : TouchInjectorService Client :=
  { service with slotRangeMap := service.slotRangeMap.erase client }

def removePositions : TouchInjectorService Client :=
  { service with
    pressedPositionMap := service.pressedPositionMap.erase client }

/-- Move a range to the end of the ones before it. -/
def moveRange (endSlotIndex : Nat) (range : SlotRange) : SlotRange × Nat :=
  ({ start := endSlotIndex, stop := endSlotIndex + range.len },
    endSlotIndex + range.len)

def remapRanges : TouchInjectorService Client :=
  { service with slotRangeMap := service.slotRangeMap.mapAccum moveRange 0 }

/-- Whether a slot id is one of the client's. -/
def inRange (range : SlotRange) (slotId : Int) : Bool :=
  decide (¬ (slotId < 0 ∨ range.len ≤ asUsize slotId))

/-- The pressed entry of a client's slot; a missing one is unwrapped. -/
def pressedEntry (slot : Nat) : Option (Option Position) :=
  (service.pressedPositionMap.lookup client).bind fun positions =>
    positions[slot]?

def setPressed (slot : Nat) (position : Option Position) :
    TouchInjectorService Client :=
  { service with
    pressedPositionMap :=
      match service.pressedPositionMap.lookup client with
      | none => service.pressedPositionMap
      | some positions =>
        service.pressedPositionMap.insert client
          (positions.set slot position) }

/-- Press or release a slot of the emulator. -/
def touch (slot : Nat) (position : Option Position) :
    Option (TouchInjectorService Client) :=
  (service.touchEmulator.touchState emit slot position).map fun emulator =>
    { service with touchEmulator := emulator }

/-- The last piece of `beginTouch`, on the range that was read before. -/
def press (range : SlotRange) (slot : Nat) (x y : Int) :
    Option (Status × TouchInjectorService Client) := do
  let pressedPosition ← service.pressedEntry client slot
  if pressedPosition.isSome then
    return (.invalidArgument "Touch on this slot is already active", service)
  let x ← checkedMul x 10
  let y ← checkedMul y 10
  let service := service.setPressed client slot (some (x, y))
  let service ← service.touch emit (range.start + slot) (some (x, y))
  return (.ok, service)

/-- The last piece of `endTouch`. -/
def lift (range : SlotRange) (slot : Nat) :
    Option (Status × TouchInjectorService Client) := do
  let pressedPosition ← service.pressedEntry client slot
  if pressedPosition.isNone then
    return (.ok, service)
  let service := service.setPressed client slot none
  let service ← service.touch emit (range.start + slot) none
  return (.ok, service)

/-! ## Handlers that run undisturbed -/

/-- `reply` is the answer of the client to `getSlotCount`. -/
def registerClient (reply : Option Int) :
    Option (Status × TouchInjectorService Client) :=
  if service.isRegistered client then some (.ok, service)
  else
    match reply with
    | none => some (.clientError, service)
    | some reply =>
      let count := asUsize reply
      if count = 0 then
        some (.invalidArgument
          "Requested slot count must be greater than zero", service)
      else do
        let service ← service.disableAllTouches emit
        let range ← service.newRange count
        let service ← service.reserve count
        let service := service.insertRange client range
        let service ← service.insertPositions client count
        let service ← service.enableAllTouches emit
        return (.ok, service)

def unregisterClient : Option (Status × TouchInjectorService Client) :=
  if service.isRegistered client then do
    let service ← service.disableAllTouches emit
    let count ← service.rangeLen client
    let service ← service.release count
    let service := service.removeRange client
    let service := service.removePositions client
    let service := service.remapRanges
    let service ← service.enableAllTouches emit
    return (.ok, service)
  else some (.ok, service)

/-- What `beginTouch` and `endTouch` have in common: the range of the client
is read and the slot id checked. -/
def withRange (slotId : Int)
    (body : SlotRange → Nat → Option (Status × TouchInjectorService Client)) :
    Option (Status × TouchInjectorService Client) :=
  match service.slotRangeMap.lookup client with
  | none =>
    some (.invalidArgument "Client is not registered for touch injection",
      service)
  | some range =>
    if inRange range slotId then body range (asUsize slotId)
    else
      some (.invalidArgument "Slot id is outside the assigned range", service)

def beginTouch (slotId x y : Int) :
    Option (Status × TouchInjectorService Client) :=
  service.withRange client slotId fun range slot =>
    service.press emit client range slot x y

def endTouch (slotId : Int) : Option (Status × TouchInjectorService Client) :=
  service.withRange client slotId fun range slot =>
    service.lift emit client range slot

end TouchInjectorService

inductive Call (Client : Type) where
  | registerClient (client : Client) (reply : Option Int)
  | unregisterClient (client : Client)
  | beginTouch (client : Client) (slotId x y : Int)
  | endTouch (client : Client) (slotId : Int)
  deriving DecidableEq, Repr

def Call.client {Client : Type} : Call Client → Client
  | .registerClient client _ => client
  | .unregisterClient client => client
  | .beginTouch client _ _ _ => client
  | .endTouch client _ => client

namespace TouchInjectorService

variable {Client : Type} [LinearOrder Client]

def handle (emit : Emit) (service : TouchInjectorService Client) :
    Call Client → Option (Status × TouchInjectorService Client)
  | .registerClient client reply => service.registerClient emit client reply
  | .unregisterClient client => service.unregisterClient emit client
  | .beginTouch client slotId x y => service.beginTouch emit client slotId x y
  | .endTouch client slotId => service.endTouch emit client slotId

/-- One call after the other, each with its luck at writing packets. -/
def step (service : TouchInjectorService Client) (label : Emit × Call Client) :
    Option (TouchInjectorService Client) :=
  (service.handle label.1 label.2).map Prod.snd

end TouchInjectorService

end HardwareInterfaces.TouchInjector

import HardwareInterfaces.TouchInjector.Service

/-!
# The touch merger

The merger turns the packets of the source device and of the emulator into
packets of one virtual device, whose slots are those of the source followed by
the additional ones.  It keeps which slot the virtual device has selected,
which slot the source believes to be selected, and which slots are active; it
gives every contact a tracking id of its own.

`none` stands for a panic.  Messages about slots out of bounds are left out,
but not the addition in the check for them.  The queue is written to the
virtual device at the end, and what becomes of it changes nothing here.
-/

namespace HardwareInterfaces.TouchInjector

open MachineArithmetic

namespace InputEvent

def isAbsolute : InputEvent → Bool
  | .absolute _ _ => true
  | _ => false

def isMtSlot : InputEvent → Bool
  | .absolute .mtSlot _ => true
  | _ => false

end InputEvent

structure TouchMerger where
  allSlotStates : List Bool
  /-- The next tracking id. -/
  allTrackingId : Int
  allCurrentSlot : Nat
  srcSlotCount : Nat
  srcCurrentSlot : Nat
  addSlotCount : Nat
  deriving DecidableEq, Repr

namespace TouchMerger

def new (srcSlotCount addSlotCount : Nat) : TouchMerger where
  allSlotStates := List.replicate (srcSlotCount + addSlotCount) false
  allTrackingId := 0
  allCurrentSlot := 0
  srcSlotCount := srcSlotCount
  srcCurrentSlot := 0
  addSlotCount := addSlotCount

variable (merger : TouchMerger)

/-! ## Single events -/

/-- `self.inner += 1` of the counter, a 32-bit integer. -/
def increment (value : Int) : Option Int :=
  if value + 1 < 2 ^ 31 then some (value + 1) else none

/-- Select a slot of the virtual device, unless it is selected already. -/
def choose (slot : Nat) : TouchMerger × List InputEvent :=
  if merger.allCurrentSlot = slot then (merger, [])
  else
    ({ merger with allCurrentSlot := slot },
      [.absolute .mtSlot (int32 slot)])

def selectSlot (useAdditionalSlots : Bool) (value : Int) :
    Option (TouchMerger × List InputEvent) := do
  let slot := asUsize value
  let _ ← checkedAdd slot 1
  if useAdditionalSlots then
    let slot ← checkedAdd merger.srcSlotCount slot
    return merger.choose slot
  else
    return { merger with srcCurrentSlot := slot }.choose slot

def assignTrackingId (trackingId : Int) :
    Option (TouchMerger × List InputEvent) :=
  if trackingId = noTrackingId then
    some
      ({ merger with
          allSlotStates :=
            merger.allSlotStates.set merger.allCurrentSlot false },
        [.absolute .mtTrackingId trackingId])
  else
    (increment merger.allTrackingId).map fun allTrackingId =>
      ({ merger with
          allTrackingId
          allSlotStates :=
            merger.allSlotStates.set merger.allCurrentSlot true },
        [.absolute .mtTrackingId merger.allTrackingId])

/-- Some slot other than the selected one is active. -/
def touchedElsewhere : Bool :=
  merger.allSlotStates.zipIdx.any fun entry =>
    decide (entry.2 ≠ merger.allCurrentSlot) && entry.1

/-- The touch keys change only with the last contact. -/
def filterTouchKey (event : InputEvent) : TouchMerger × List InputEvent :=
  if merger.touchedElsewhere then (merger, []) else (merger, [event])

def mergeEvent (useAdditionalSlots : Bool) :
    InputEvent → Option (TouchMerger × List InputEvent)
  | .absolute .mtSlot slot => merger.selectSlot useAdditionalSlots slot
  | .absolute .mtTrackingId trackingId => merger.assignTrackingId trackingId
  | .key .btnTouch value => some (merger.filterTouchKey (.key .btnTouch value))
  | .key .btnToolFinger value =>
    some (merger.filterTouchKey (.key .btnToolFinger value))
  | event => some (merger, [event])

/-! ## Packets -/

/-- Select the slot of the source again when the first absolute event of its
packet does not select one. -/
def resetSlot (evs : List InputEvent) (useAdditionalSlots : Bool) :
    TouchMerger × List InputEvent :=
  if !useAdditionalSlots &&
      decide (merger.allCurrentSlot ≠ merger.srcCurrentSlot) &&
      (evs.find? InputEvent.isAbsolute).any (fun event => !event.isMtSlot) then
    ({ merger with allCurrentSlot := merger.srcCurrentSlot },
      [.absolute .mtSlot (int32 merger.srcCurrentSlot)])
  else (merger, [])

def mergeEvents (merger : TouchMerger) (useAdditionalSlots : Bool) :
    List InputEvent → Option (TouchMerger × List InputEvent)
  | [] => some (merger, [])
  | event :: evs => do
      let (merger, queue) ← merger.mergeEvent useAdditionalSlots event
      let (merger, rest) ← mergeEvents merger useAdditionalSlots evs
      return (merger, queue ++ rest)

/-- The events that are written for a packet. -/
def emit (evs : List InputEvent) (useAdditionalSlots : Bool) :
    Option (TouchMerger × List InputEvent) := do
  let (merger, queue) := merger.resetSlot evs useAdditionalSlots
  let (merger, rest) ← merger.mergeEvents useAdditionalSlots evs
  return (merger, queue ++ rest)

end TouchMerger

/-! ## The slots of the virtual device -/

theorem asUsize_cast {value : Int} (hlower : 0 ≤ value)
    (hupper : value < 2 ^ 31) : (asUsize value : Int) = value := by
  rw [asUsize, Int.emod_eq_of_lt hlower (by omega), Int.toNat_of_nonneg hlower]

/-- The source has a slot zero, at which it starts, and all slots are values
of a 32-bit axis. -/
structure SlotLayout where
  srcSlotCount : Nat
  addSlotCount : Nat
  src_pos : 0 < srcSlotCount
  fits : srcSlotCount + addSlotCount ≤ 2 ^ 31

namespace SlotLayout

def checkedAdd32 (left right : Int) : Option Int :=
  if -2 ^ 31 ≤ left + right ∧ left + right < 2 ^ 31 then some (left + right)
  else none

/-- The arithmetic of `create_virtual_device`: the number of source slots and
the maximum of the new slot axis, from the maximum of the source's. -/
def createVirtualDevice (maximum : Int) (addSlotCount : Nat) :
    Option (Nat × Int) := do
  let slotCount ← checkedAdd32 maximum 1
  let allMaximum ← checkedAdd32 maximum (int32 addSlotCount)
  return (asUsize slotCount, allMaximum)

theorem checkedAdd32_eq_some {left right sum : Int}
    (hsum : checkedAdd32 left right = some sum) :
    sum = left + right ∧ left + right < 2 ^ 31 := by
  rw [checkedAdd32] at hsum
  split_ifs at hsum with hbounds
  exact ⟨(Option.some.inj hsum).symm, hbounds.2⟩

theorem srcSlotCount_of_createVirtualDevice {maximum allMaximum : Int}
    {srcSlotCount addSlotCount : Nat} (hmaximum : 0 ≤ maximum)
    (hcreate : createVirtualDevice maximum addSlotCount =
      some (srcSlotCount, allMaximum)) :
    (srcSlotCount : Int) = maximum + 1 ∧
      maximum + int32 addSlotCount < 2 ^ 31 := by
  simp only [createVirtualDevice, bind, pure, Option.bind_eq_some_iff] at hcreate
  obtain ⟨slotCount, hcount, sum, hsum, hresult⟩ := hcreate
  cases hresult
  obtain ⟨rfl, hbound⟩ := checkedAdd32_eq_some hcount
  obtain ⟨rfl, hfits⟩ := checkedAdd32_eq_some hsum
  exact ⟨asUsize_cast (by omega) (by omega), hfits⟩

/-- The device that is created has such a layout. -/
def ofDevice {maximum allMaximum : Int} {srcSlotCount addSlotCount : Nat}
    (hmaximum : 0 ≤ maximum) (hadd : addSlotCount < 2 ^ 31)
    (hcreate : createVirtualDevice maximum addSlotCount =
      some (srcSlotCount, allMaximum)) : SlotLayout where
  srcSlotCount := srcSlotCount
  addSlotCount := addSlotCount
  src_pos := by
    have hcount := (srcSlotCount_of_createVirtualDevice hmaximum hcreate).1
    omega
  fits := by
    obtain ⟨hcount, hfits⟩ := srcSlotCount_of_createVirtualDevice hmaximum hcreate
    rw [int32_eq_self (by omega) (by omega)] at hfits
    omega

def merger (layout : SlotLayout) : TouchMerger :=
  .new layout.srcSlotCount layout.addSlotCount

end SlotLayout

end HardwareInterfaces.TouchInjector

import HardwareInterfaces.TouchInjector.MergedStream

/-!
# The virtual device

The source device and the emulator hand their packets to the merger in any
order.  The events that the merger writes show the state of both: the slots of
the source as the source shows them, and behind them the slots of the emulator
with the positions at which they were last pressed.
-/

namespace HardwareInterfaces.TouchInjector

open Transition MachineArithmetic

/-- The position axes of a slot. -/
def positionAxes : Option Position → MtAxis → Option Int
  | some position, .positionX => some position.1
  | some position, .positionY => some position.2
  | _, _ => none

theorem positionAxes_other (pos : Option Position) (code : Nat) :
    positionAxes pos (.other code) = none := by
  cases pos <;> rfl

/-- A packet of the source, or a touch of the emulator. -/
inductive Packet where
  | source (events : List InputEvent)
  | touch (slot : Nat) (pos : Option Position)
  deriving DecidableEq, Repr

structure TouchScreen where
  merger : TouchMerger
  emulator : TouchEmulator
  /-- The events of the source so far. -/
  received : List InputEvent
  /-- The events written to the virtual device so far. -/
  emitted : List InputEvent
  /-- Where the slots of the emulator were last pressed. -/
  positions : Nat → Option Position

namespace TouchScreen

def init (layout : SlotLayout) : TouchScreen where
  merger := layout.merger
  emulator := .new layout.addSlotCount
  received := []
  emitted := []
  positions := fun _ => none

def source (screen : TouchScreen) : DeviceState :=
  DeviceState.initial.decode screen.received

def virtual (screen : TouchScreen) : DeviceState :=
  DeviceState.initial.decode screen.emitted

def write (screen : TouchScreen) (evs : List InputEvent)
    (useAdditionalSlots : Bool) : Option TouchScreen :=
  (screen.merger.emit evs useAdditionalSlots).map fun result =>
    { screen with
      merger := result.1, emitted := screen.emitted ++ result.2 }

/-- Every packet is written. -/
def step (screen : TouchScreen) : Packet → Option TouchScreen
  | .source events =>
    { screen with received := screen.received ++ events }.write events false
  | .touch slot pos =>
    (screen.emulator.touch (fun _ => true) slot pos).bind fun outcome =>
      match outcome.packet with
      | none => some { screen with emulator := outcome.emulator }
      | some packet =>
        { screen with
          emulator := outcome.emulator
          positions :=
            if pos.isSome then
              Function.update screen.positions slot pos
            else screen.positions }.write packet true

end TouchScreen

namespace Packet

/-- The packet speaks of slots of its producer. -/
def SlotsBelow (layout : SlotLayout) : Packet → Prop
  | .source events =>
    ∀ event ∈ events, event.SelectsBelow layout.srcSlotCount
  | .touch slot _ => slot < layout.addSlotCount

instance (layout : SlotLayout) : DecidablePred (SlotsBelow layout)
  | .source events =>
    inferInstanceAs (Decidable (∀ event ∈ events,
      event.SelectsBelow layout.srcSlotCount))
  | .touch _ _ => inferInstanceAs (Decidable (_ < _))

/-- The number of contacts that begin in a sequence of packets. -/
def contacts : TouchEmulator → List Packet → Nat
  | _, [] => 0
  | emulator, .source events :: packets =>
    (contactIds events).length + contacts emulator packets
  | emulator, .touch slot pos :: packets =>
    match emulator.touch (fun _ => true) slot pos with
    | none => 0
    | some outcome =>
      (contactIds (outcome.packet.getD [])).length +
        contacts outcome.emulator packets

end Packet

/-! ## The packets of the emulator -/

namespace TouchEmulator

/-- The emulator as a device of its own. -/
def device (emulator : TouchEmulator) (positions : Nat → Option Position)
    (slot : Nat) : DeviceState where
  currentSlot := slot
  trackingId := fun slot =>
    if emulator.slotStates.getD slot.toNat false then 0 else noTrackingId
  axes := fun slot => positionAxes (positions slot.toNat)
  btnTouch := if emulator.touched then 1 else 0

theorem shown_device (emulator : TouchEmulator)
    (positions : Nat → Option Position) (current slot : Nat) :
    (emulator.device positions current).shown slot =
      (emulator.slotStates.getD slot false, positionAxes (positions slot)) := by
  simp only [DeviceState.shown, device, Int.toNat_natCast]
  by_cases hstate : emulator.slotStates.getD slot false = true
  · rw [if_pos hstate, hstate]
    rfl
  · rw [if_neg hstate, Bool.eq_false_iff.mpr hstate]
    rfl

theorem packet_some (slot : Nat) (x y : Int)
    (touchedBefore touchedAfter : Bool) :
    packet slot (some (x, y)) touchedBefore touchedAfter =
      [.absolute .mtSlot (int32 slot), .absolute .mtTrackingId 0] ++
        (if touchedBefore then []
          else [.key .btnTouch 1, .key .btnToolFinger 1]) ++
        [.absolute (.mt .positionX) x, .absolute (.mt .positionY) y,
          .synReport] := by
  cases touchedBefore <;> rfl

theorem packet_none (slot : Nat) (touchedBefore touchedAfter : Bool) :
    packet slot none touchedBefore touchedAfter =
      [.absolute .mtSlot (int32 slot), .absolute .mtTrackingId noTrackingId] ++
        (if touchedAfter then []
          else [.key .btnTouch 0, .key .btnToolFinger 0]) ++
        [.synReport] := by
  cases touchedAfter <;> rfl

variable {slot : Nat}

theorem shown_decode_packet (device : DeviceState) (hslot : slot < 2 ^ 31)
    (pos : Option Position) (touchedBefore touchedAfter : Bool) (other : Int) :
    (device.decode (packet slot pos touchedBefore touchedAfter)).shown other =
      if other = slot then
        (pos.isSome, match pos with
          | some (x, y) => Function.update (Function.update (device.axes slot)
              .positionX (some x)) .positionY (some y)
          | none => device.axes slot)
      else device.shown other := by
  have hint : int32 slot = slot := int32_eq_self (by omega) (by omega)
  have hactive : (0 : Int) ≠ noTrackingId := by decide
  by_cases hother : other = slot
  · rw [if_pos hother, hother]
    rcases pos with _ | ⟨x, y⟩
    · rw [packet_none, hint]
      split_ifs <;> simp [DeviceState.decode, DeviceState.apply,
        DeviceState.shown]
    · rw [packet_some, hint]
      split_ifs <;> simp [DeviceState.decode, DeviceState.apply,
        DeviceState.shown, hactive]
  · rw [if_neg hother]
    rcases pos with _ | ⟨x, y⟩
    · rw [packet_none, hint]
      split_ifs <;> simp [DeviceState.decode, DeviceState.apply,
        DeviceState.shown, Function.update_of_ne hother]
    · rw [packet_some, hint]
      split_ifs <;> simp [DeviceState.decode, DeviceState.apply,
        DeviceState.shown, Function.update_of_ne hother]

/-- A packet changes one slot of the emulator. -/
theorem shown_decode_packet_device {emulator : TouchEmulator}
    (hslot : slot < emulator.slotStates.length) (hfits : slot < 2 ^ 31)
    (positions : Nat → Option Position) (pos : Option Position)
    (touchedBefore touchedAfter : Bool) (current other : Nat) :
    ((emulator.device positions current).decode
        (packet slot pos touchedBefore touchedAfter)).shown other =
      ((emulator.slotStates.set slot pos.isSome).getD other false,
        positionAxes ((if pos.isSome then
          Function.update positions slot pos else positions) other)) := by
  rw [shown_decode_packet _ hfits]
  by_cases hother : other = slot
  · subst hother
    have hstate : (emulator.slotStates.set other pos.isSome).getD other false =
        pos.isSome := by
      rw [List.getD_eq_getElem?_getD, List.getElem?_set_self hslot,
        Option.getD_some]
    rw [if_pos rfl, hstate]
    rcases pos with _ | ⟨x, y⟩
    · rfl
    · rw [if_pos (Option.isSome_some), Function.update_self]
      congr 1
      funext axis
      cases axis with
      | positionX | positionY => rfl
      | other code => exact positionAxes_other _ code
  · have hstate : (emulator.slotStates.set slot pos.isSome).getD other false =
        emulator.slotStates.getD other false := by
      rw [List.getD_eq_getElem?_getD, List.getElem?_set_ne (Ne.symm hother),
        ← List.getD_eq_getElem?_getD]
    have hpositions : (if pos.isSome then Function.update positions slot pos
        else positions) other = positions other := by
      split_ifs
      · exact Function.update_of_ne hother _ _
      · rfl
    rw [if_neg fun hcast => hother (Nat.cast_inj.mp hcast), hstate, hpositions,
      shown_device]

theorem leads_packet (slot : Nat) (pos : Option Position)
    (touchedBefore touchedAfter : Bool) :
    TouchMerger.Leads (packet slot pos touchedBefore touchedAfter) := by
  intro event hevent
  cases hevent
  rfl

theorem selectsBelow_packet {count : Nat} (hslot : slot < count)
    (hfits : slot < 2 ^ 31) (pos : Option Position)
    (touchedBefore touchedAfter : Bool) :
    ∀ event ∈ packet slot pos touchedBefore touchedAfter,
      event.SelectsBelow count := by
  have hint : int32 slot = slot := int32_eq_self (by omega) (by omega)
  have hselect : (InputEvent.absolute .mtSlot (int32 slot)).SelectsBelow count := by
    rw [hint]
    exact ⟨Int.natCast_nonneg slot, Int.ofNat_lt.mpr hslot⟩
  rcases pos with _ | ⟨x, y⟩
  · rw [packet_none]
    split_ifs <;> simpa [InputEvent.SelectsBelow] using hselect
  · rw [packet_some]
    split_ifs <;> simpa [InputEvent.SelectsBelow] using hselect

end TouchEmulator

namespace TouchScreen

variable {layout : SlotLayout} {screen : TouchScreen}

/-! ## Packets on the screen -/

/-- The invariant between two packets. -/
structure Kept (layout : SlotLayout) (screen : TouchScreen) : Prop where
  srcSlotCount : screen.merger.srcSlotCount = layout.srcSlotCount
  addSlotCount : screen.merger.addSlotCount = layout.addSlotCount
  source : TouchMerger.Linked false screen.merger screen.virtual screen.source
  emulator : ∀ slot : Nat, slot < layout.addSlotCount →
    screen.virtual.shown (layout.srcSlotCount + slot) =
      (screen.emulator.slotStates.getD slot false,
        positionAxes (screen.positions slot))
  length_eq : screen.emulator.slotStates.length = layout.addSlotCount
  outside : ∀ slot : Int,
    ¬ (0 ≤ slot ∧ slot < layout.srcSlotCount + layout.addSlotCount) →
      (screen.virtual.shown slot).1 = false
  ids : ∃ contacts : Nat, screen.merger.allTrackingId = contacts ∧
    contactIds screen.emitted =
      (List.range contacts).map fun index : Nat => (index : Int)

theorem Kept.nextId_nonneg (hkept : Kept layout screen) :
    0 ≤ screen.merger.allTrackingId := by
  obtain ⟨contacts, hcontacts, -⟩ := hkept.ids
  omega

theorem kept_init (layout : SlotLayout) : Kept layout (init layout) where
  srcSlotCount := rfl
  addSlotCount := rfl
  source := by
    refine ⟨⟨rfl, List.length_replicate, fun slot hslot => ?_⟩, layout.fits,
      fun slot _ => ?_, ⟨le_rfl, ?_⟩, fun _ => rfl⟩
    · exact (List.getElem?_replicate).trans
        (if_pos (lt_of_lt_of_eq hslot List.length_replicate))
    · rfl
    · exact Int.ofNat_lt.mpr layout.src_pos
  emulator := by
    intro slot hslot
    have hstate : (TouchEmulator.new layout.addSlotCount).slotStates.getD slot
        false = false := by
      rw [TouchEmulator.new, List.getD_eq_getElem?_getD,
        List.getElem?_replicate, if_pos hslot, Option.getD_some]
    have haxes : positionAxes none = fun _ => none := by
      funext axis
      cases axis <;> rfl
    rw [init, hstate, haxes]
    rfl
  length_eq := List.length_replicate
  outside := fun _ _ => rfl
  ids := ⟨0, rfl, rfl⟩

/-- The contacts that a written packet adds. -/
theorem ids_write {merger : TouchMerger} {queue : List InputEvent}
    {useAdditionalSlots : Bool} {added : Nat}
    (hids : ∃ contacts : Nat, screen.merger.allTrackingId = contacts ∧
      contactIds screen.emitted =
        (List.range contacts).map fun index : Nat => (index : Int))
    (hprogress : TouchMerger.Progress useAdditionalSlots screen.merger merger
      screen.virtual queue added) :
    ∃ contacts : Nat, merger.allTrackingId = contacts ∧
      contactIds (screen.emitted ++ queue) =
        (List.range contacts).map fun index : Nat => (index : Int) := by
  obtain ⟨contacts, hnext, hemitted⟩ := hids
  refine ⟨contacts + added, ?_, ?_⟩
  · rw [hprogress.nextId, hnext, Nat.cast_add]
  · calc contactIds (screen.emitted ++ queue)
        = contactIds screen.emitted ++ contactIds queue := List.filterMap_append
      _ = (List.range (contacts + added)).map fun index : Nat =>
            (index : Int) := by
          rw [hemitted, hprogress.ids, hnext, List.range_add, List.map_append,
            List.map_map]
          simp only [Function.comp_def, Nat.cast_add]

theorem Kept.source_step (hkept : Kept layout screen)
    {events : List InputEvent}
    (hbelow : (Packet.source events).SlotsBelow layout)
    (hroom : screen.merger.allTrackingId + (contactIds events).length <
      2 ^ 31) :
    ∃ next, step screen (.source events) = some next ∧ Kept layout next ∧
      next.merger.allTrackingId =
        screen.merger.allTrackingId + (contactIds events).length ∧
      next.emulator = screen.emulator := by
  have hcount : screen.merger.slotCount false = layout.srcSlotCount :=
    hkept.srcSlotCount
  obtain ⟨merger, queue, hemit, hlinked, hprogress⟩ :=
    TouchMerger.exists_emit hkept.source nofun (hcount ▸ hbelow)
      hkept.nextId_nonneg hroom
  have hothers : ∀ slot : Int, ¬ (0 ≤ slot ∧ slot < layout.srcSlotCount) →
      (screen.virtual.decode queue).shown slot = screen.virtual.shown slot := by
    intro slot hslot
    apply hprogress.others
    rw [hcount, TouchMerger.offset, if_neg Bool.false_ne_true]
    omega
  refine ⟨{ screen with
    received := screen.received ++ events
    merger, emitted := screen.emitted ++ queue }, ?_, ?_, hprogress.nextId, rfl⟩
  · simp only [step, write, hemit, Option.map_some]
  · refine ⟨hprogress.srcSlotCount.trans hkept.srcSlotCount,
      hprogress.addSlotCount.trans hkept.addSlotCount, ?_, ?_,
      hkept.length_eq, ?_, ids_write hkept.ids hprogress⟩
    · rw [virtual, TouchScreen.source, DeviceState.decode_append,
        DeviceState.decode_append]
      exact hlinked
    · intro slot hslot
      rw [virtual, DeviceState.decode_append]
      exact (hothers _ (by omega)).trans (hkept.emulator slot hslot)
    · intro slot hslot
      rw [virtual, DeviceState.decode_append]
      exact (congrArg Prod.fst (hothers slot (by omega))).trans
        (hkept.outside slot hslot)

section

variable (hkept : Kept layout screen) {slot : Nat}
  (hslot : slot < layout.addSlotCount)
include hkept hslot

/-- The emulator is linked to its slots whichever of them it selects. -/
theorem Kept.linked_device :
    TouchMerger.Linked true screen.merger screen.virtual
      (screen.emulator.device screen.positions slot) := by
  refine ⟨hkept.source.tracks, hkept.source.fits, fun other hother => ?_,
    ⟨Int.natCast_nonneg slot, ?_⟩, nofun⟩
  · rw [TouchMerger.slotCount, if_pos rfl, hkept.addSlotCount] at hother
    rw [TouchMerger.offset, if_pos rfl, hkept.srcSlotCount,
      hkept.emulator other hother, TouchEmulator.shown_device]
  · rw [TouchMerger.slotCount, if_pos rfl, hkept.addSlotCount]
    exact Int.ofNat_lt.mpr hslot

theorem Kept.write_packet (pos : Option Position) {packet : List InputEvent}
    {touchedBefore touchedAfter : Bool} (hpacket : packet =
      TouchEmulator.packet slot pos touchedBefore touchedAfter)
    (hroom : screen.merger.allTrackingId + (contactIds packet).length <
      2 ^ 31) :
    ∃ merger queue, screen.merger.emit packet true = some (merger, queue) ∧
      merger.allTrackingId =
        screen.merger.allTrackingId + (contactIds packet).length ∧
      Kept layout { screen with
        emulator := ⟨screen.emulator.slotStates.set slot pos.isSome⟩
        positions :=
          if pos.isSome then Function.update screen.positions slot pos
          else screen.positions
        merger, emitted := screen.emitted ++ queue } := by
  have hfits := layout.fits
  have hcount : screen.merger.slotCount true = layout.addSlotCount :=
    hkept.addSlotCount
  have hoffset : screen.merger.offset true = layout.srcSlotCount :=
    hkept.srcSlotCount
  obtain ⟨merger, queue, hemit, hlinked, hprogress⟩ :=
    TouchMerger.exists_emit (hkept.linked_device hslot)
      (fun _ => hpacket ▸ TouchEmulator.leads_packet _ _ _ _)
      (hcount ▸ hpacket ▸ TouchEmulator.selectsBelow_packet hslot (by omega)
        pos touchedBefore touchedAfter) hkept.nextId_nonneg hroom
  have hothers : ∀ other : Int, ¬ (layout.srcSlotCount ≤ other ∧
      other < layout.srcSlotCount + layout.addSlotCount) →
      (screen.virtual.decode queue).shown other =
        screen.virtual.shown other := by
    intro other hother
    apply hprogress.others
    rw [hcount, hoffset]
    exact hother
  have hvirtual : DeviceState.initial.decode (screen.emitted ++ queue) =
      screen.virtual.decode queue := DeviceState.decode_append _ _ _
  refine ⟨merger, queue, hemit, hprogress.nextId,
    hprogress.srcSlotCount.trans hkept.srcSlotCount,
    hprogress.addSlotCount.trans hkept.addSlotCount, ?_, ?_, ?_, ?_,
    ids_write hkept.ids hprogress⟩
  · rw [virtual, hvirtual]
    exact hkept.source.of_additional hlinked.tracks hprogress
  · intro other hother
    have hshown := hlinked.shown other
      (by rwa [hprogress.slotCount_eq.1, hcount])
    rw [hprogress.slotCount_eq.2, hoffset, hpacket,
      TouchEmulator.shown_decode_packet_device (hkept.length_eq.symm ▸ hslot)
        (by omega)] at hshown
    rw [virtual, hvirtual, hshown]
  · rw [List.length_set, hkept.length_eq]
  · intro other hother
    rw [virtual, hvirtual, hothers other (by omega)]
    exact hkept.outside other hother

theorem Kept.touch_step (pos : Option Position) (hroom : ∀ outcome,
      screen.emulator.touch (fun _ => true) slot pos = some outcome →
        screen.merger.allTrackingId +
          (contactIds (outcome.packet.getD [])).length < 2 ^ 31) :
    ∃ next outcome, step screen (.touch slot pos) = some next ∧
      screen.emulator.touch (fun _ => true) slot pos = some outcome ∧
      Kept layout next ∧ next.emulator = outcome.emulator ∧
      next.merger.allTrackingId = screen.merger.allTrackingId +
        (contactIds (outcome.packet.getD [])).length := by
  have hlt : slot < screen.emulator.slotStates.length :=
    hslot.trans_eq hkept.length_eq.symm
  rcases TouchEmulator.touch_of_lt (fun _ => true) hlt pos with
    ⟨-, htouch⟩ | ⟨-, outcome, touchedAfter, htouch, hpacket, hemulator, -⟩
  · refine ⟨screen, _, ?_, htouch, hkept, rfl, (add_zero _).symm⟩
    simp only [step, htouch, Option.bind_some]
  · have hroom' := hroom outcome htouch
    rw [hpacket, Option.getD_some] at hroom'
    obtain ⟨merger, queue, hemit, hnextId, hkept'⟩ :=
      hkept.write_packet hslot pos rfl hroom'
    rw [← hemulator] at hkept'
    refine ⟨_, outcome, ?_, htouch, hkept', rfl, ?_⟩
    · simp only [step, htouch, Option.bind_some, hpacket, write, hemit,
        Option.map_some]
    · rw [hpacket, Option.getD_some]
      exact hnextId

end

/-- Every packet is merged while there are tracking ids left. -/
theorem Kept.exists_step (hkept : Kept layout screen) {packet : Packet}
    {packets : List Packet} (hbelow : packet.SlotsBelow layout)
    (hroom : screen.merger.allTrackingId +
      Packet.contacts screen.emulator (packet :: packets) < 2 ^ 31) :
    ∃ next, step screen packet = some next ∧ Kept layout next ∧
      next.merger.allTrackingId + Packet.contacts next.emulator packets =
        screen.merger.allTrackingId +
          Packet.contacts screen.emulator (packet :: packets) := by
  cases packet with
  | source =>
    rw [Packet.contacts] at hroom ⊢
    obtain ⟨next, hstep, hnext, hnextId, hemulator⟩ :=
      hkept.source_step hbelow (by omega)
    refine ⟨next, hstep, hnext, ?_⟩
    rw [hnextId, hemulator]
    omega
  | touch slot pos =>
    have hroom' : ∀ outcome,
        screen.emulator.touch (fun _ => true) slot pos = some outcome →
        screen.merger.allTrackingId +
          (contactIds (outcome.packet.getD [])).length < 2 ^ 31 := by
      intro outcome htouch
      simp only [Packet.contacts, htouch] at hroom
      omega
    obtain ⟨next, outcome, hstep, htouch, hnext, hemulator, hnextId⟩ :=
      hkept.touch_step hbelow pos hroom'
    refine ⟨next, hstep, hnext, ?_⟩
    simp only [Packet.contacts, htouch]
    rw [hnextId, hemulator]
    omega

/-! ## The whole stream -/

/-- The virtual device shows the source and the emulator side by side. -/
structure Merged (layout : SlotLayout) (screen : TouchScreen) : Prop where
  source_active : ∀ slot : Nat, slot < layout.srcSlotCount →
    (screen.virtual.Active slot ↔ screen.source.Active slot)
  source_axes : ∀ slot : Nat, slot < layout.srcSlotCount →
    screen.virtual.axes slot = screen.source.axes slot
  emulator_active : ∀ slot : Nat, slot < layout.addSlotCount →
    (screen.virtual.Active (layout.srcSlotCount + slot) ↔
      screen.emulator.slotStates[slot]? = some true)
  emulator_axes : ∀ slot : Nat, slot < layout.addSlotCount →
    screen.virtual.axes (layout.srcSlotCount + slot) =
      positionAxes (screen.positions slot)
  no_other_active : ∀ slot : Int,
    ¬ (0 ≤ slot ∧ slot < layout.srcSlotCount + layout.addSlotCount) →
      ¬ screen.virtual.Active slot
  ids_distinct : (contactIds screen.emitted).Nodup

theorem Kept.merged (hkept : Kept layout screen) : Merged layout screen := by
  have hsource : ∀ slot : Nat, slot < layout.srcSlotCount →
      screen.virtual.shown slot = screen.source.shown slot := by
    intro slot hslot
    have hcount : screen.merger.slotCount false = layout.srcSlotCount :=
      hkept.srcSlotCount
    have hshown := hkept.source.shown slot (hslot.trans_eq hcount.symm)
    rwa [TouchMerger.offset, if_neg Bool.false_ne_true, Nat.cast_zero,
      zero_add] at hshown
  refine ⟨?_, ?_, ?_, ?_, ?_, ?_⟩
  · intro slot hslot
    rw [← DeviceState.shown_fst_iff, ← DeviceState.shown_fst_iff,
      hsource slot hslot]
  · intro slot hslot
    exact congrArg Prod.snd (hsource slot hslot)
  · intro slot hslot
    have hlt : slot < screen.emulator.slotStates.length :=
      hslot.trans_eq hkept.length_eq.symm
    rw [← DeviceState.shown_fst_iff, hkept.emulator slot hslot,
      List.getD_eq_getElem?_getD, List.getElem?_eq_getElem hlt,
      Option.getD_some, Option.some_inj]
  · intro slot hslot
    exact congrArg Prod.snd (hkept.emulator slot hslot)
  · intro slot hslot
    rw [← DeviceState.shown_fst_iff, hkept.outside slot hslot]
    exact Bool.false_ne_true
  · obtain ⟨contacts, -, hids⟩ := hkept.ids
    rw [hids]
    exact List.nodup_range.map Nat.cast_injective

/-- However the packets of the source and of the emulator alternate, the
events written for them show both devices after every packet. -/
theorem virtual_device_shows_both (layout : SlotLayout) (packets : List Packet)
    (hbelow : ∀ packet ∈ packets, packet.SlotsBelow layout)
    (hcontacts : Packet.contacts (.new layout.addSlotCount) packets < 2 ^ 31) :
    (∃ last, run step (init layout) packets = some last) ∧
      RunHolds step (Merged layout) (init layout) packets := by
  suffices hrun : ∀ screen, Kept layout screen →
      screen.merger.allTrackingId + Packet.contacts screen.emulator packets <
        2 ^ 31 →
      (∃ last, run step screen packets = some last) ∧
        RunHolds step (Merged layout) screen packets by
    apply hrun (init layout) (kept_init layout)
    have hfirst : (init layout).merger.allTrackingId = 0 := rfl
    have hemulator : (init layout).emulator = .new layout.addSlotCount := rfl
    rw [hfirst, hemulator]
    omega
  clear hcontacts
  induction packets with
  | nil => exact fun screen hkept _ => ⟨⟨screen, rfl⟩, hkept.merged⟩
  | cons packet packets ih =>
      intro screen hkept hroom
      obtain ⟨next, hstep, hnext, hcontacts⟩ :=
        hkept.exists_step (hbelow packet List.mem_cons_self) hroom
      rw [← hcontacts] at hroom
      obtain ⟨⟨last, hlast⟩, hholds⟩ := ih
        (fun other hother => hbelow other (List.mem_cons_of_mem packet hother))
        next hnext hroom
      refine ⟨⟨last, run_cons_eq_some.mpr ⟨next, hstep, hlast⟩⟩, hkept.merged,
        fun next' hstep' => ?_⟩
      cases hstep.symm.trans hstep'
      exact hholds

/-- Two source slots and two additional ones. -/
def sampleLayout : SlotLayout where
  srcSlotCount := 2
  addSlotCount := 2
  src_pos := by decide
  fits := by decide

/-- The source moves its contact again after the emulator has pressed a slot
in between, without selecting its slot once more. -/
def samplePackets : List Packet :=
  [.source [.absolute .mtTrackingId 7, .absolute (.mt .positionX) 100,
      .absolute (.mt .positionY) 200, .key .btnTouch 1, .synReport],
    .touch 1 (some (30, 40)),
    .source [.absolute (.mt .positionX) 110, .synReport],
    .touch 1 none]

theorem virtual_device_shows_both_samples :
    (∃ last, run step (init sampleLayout) samplePackets = some last) ∧
      RunHolds step (Merged sampleLayout) (init sampleLayout) samplePackets :=
  virtual_device_shows_both sampleLayout samplePackets (by decide) (by decide)

end TouchScreen

end HardwareInterfaces.TouchInjector

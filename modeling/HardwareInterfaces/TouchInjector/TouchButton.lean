import HardwareInterfaces.TouchInjector.VirtualDevice

/-!
# The touch key

The virtual device should report the touch key as pressed exactly while one of
its slots is active.  The merger passes a touch key on when no slot but the
selected one is active at that point of the packet.  Packets of the emulator
always keep the key right; a packet of the source does when the last touch key
that is passed on agrees with the slots after the packet, or none is needed.
Two contacts that begin in one packet, before its touch key, lose the key.
-/

namespace HardwareInterfaces.TouchInjector

open Transition MachineArithmetic

namespace InputEvent

/-- The value of the touch key. -/
def touchValue : InputEvent → Option Int
  | .key .btnTouch value => some value
  | _ => none

/-- The event with the slots numbered from `offset` on. -/
def shift (offset : Nat) : InputEvent → InputEvent
  | .absolute .mtSlot slot => .absolute .mtSlot (offset + slot)
  | event => event

theorem shift_zero (event : InputEvent) : event.shift 0 = event := by
  rcases event with ⟨_ | _ | _ | _, _⟩ | _ | _ | _
  · rw [shift, Nat.cast_zero, zero_add]
  all_goals rfl

theorem touchValue_shift (offset : Nat) (event : InputEvent) :
    (event.shift offset).touchValue = event.touchValue := by
  rcases event with ⟨_ | _ | _ | _, _⟩ | _ | _ | _ <;> rfl

end InputEvent

namespace DeviceState

/-- The touch key is pressed while some slot is active. -/
def ButtonMatches (device : DeviceState) : Prop :=
  device.btnTouch = 1 ↔ ∃ slot, device.Active slot

/-- No slot of the first `total` is active but the selected one. -/
def aloneActive (total : Nat) (device : DeviceState) : Bool :=
  (List.range total).all fun slot =>
    decide ((slot : Int) = device.currentSlot) || !(device.shown slot).1

/-- The last touch key that comes while no slot but the selected one is
active. -/
def seenTouch (total : Nat) (device : DeviceState) :
    List InputEvent → Option Int
  | [] => none
  | event :: events =>
    (seenTouch total (device.apply event) events).or
      (if device.aloneActive total then event.touchValue else none)

/-- The devices select the same slot and show the same in all slots. -/
structure Alike (device device' : DeviceState) : Prop where
  selected : device.currentSlot = device'.currentSlot
  shown : ∀ slot, device.shown slot = device'.shown slot

theorem buttonMatches_initial : initial.ButtonMatches := by
  refine iff_of_false (by decide) ?_
  rintro ⟨slot, hslot⟩
  exact hslot rfl

theorem aloneActive_iff (total : Nat) (device : DeviceState) :
    device.aloneActive total = true ↔ ∀ slot : Nat, slot < total →
      (slot : Int) ≠ device.currentSlot → ¬ device.Active slot := by
  rw [aloneActive, List.all_eq_true]
  refine forall_congr' fun slot => ?_
  rw [List.mem_range, ← shown_fst_iff, Bool.or_eq_true, decide_eq_true_eq,
    or_iff_not_imp_left, Bool.not_eq_true', Bool.not_eq_true]

variable {device device' : DeviceState}

theorem btnTouch_apply (device : DeviceState) (event : InputEvent) :
    (device.apply event).btnTouch = event.touchValue.getD device.btnTouch := by
  rcases event with ⟨_ | _ | _ | _, _⟩ | ⟨_ | _ | _, _⟩ | _ | _ <;> rfl

theorem btnTouch_decode_singleton (device : DeviceState) {event : InputEvent}
    (hevent : event.touchValue = none) :
    (device.decode [event]).btnTouch = device.btnTouch := by
  rw [decode, List.foldl_cons, List.foldl_nil, btnTouch_apply, hevent,
    Option.getD_none]

theorem Alike.refl (device : DeviceState) : Alike device device :=
  ⟨rfl, fun _ => rfl⟩

theorem Alike.active_iff (halike : Alike device device') (slot : Int) :
    device.Active slot ↔ device'.Active slot := by
  rw [← shown_fst_iff, ← shown_fst_iff, halike.shown]

theorem Alike.aloneActive (halike : Alike device device') (total : Nat) :
    device.aloneActive total = device'.aloneActive total := by
  simp only [DeviceState.aloneActive, halike.selected, halike.shown]

end DeviceState

namespace TouchMerger

open DeviceState

variable {merger merger' : TouchMerger} {virtual : DeviceState}
  {useAdditionalSlots : Bool} {event : InputEvent} {queue : List InputEvent}

/-! ## Merged events -/

/-- The merger drops the touch keys that come while another slot is active. -/
theorem Tracks.touchedElsewhere_eq (htracks : Tracks merger virtual) :
    merger.touchedElsewhere =
      !virtual.aloneActive (merger.srcSlotCount + merger.addSlotCount) := by
  rw [← htracks.length_eq, Bool.eq_iff_iff, Bool.not_eq_true', aloneActive,
    List.all_eq_false, touchedElsewhere, List.any_eq_true]
  constructor
  · rintro ⟨⟨state, slot⟩, hentry, helse⟩
    have hget := List.mem_zipIdx_iff_getElem?.mp hentry
    have hlt := (List.getElem?_eq_some_iff.mp hget).1
    have hstate := (htracks.states slot hlt).symm.trans hget
    refine ⟨slot, List.mem_range.mpr hlt, ?_⟩
    rw [Option.some.inj hstate, htracks.selected]
    simpa using helse
  · rintro ⟨slot, hslot, helse⟩
    have hget := htracks.states slot (List.mem_range.mp hslot)
    refine ⟨((virtual.shown slot).1, slot),
      List.mem_zipIdx_iff_getElem?.mpr hget, ?_⟩
    rw [htracks.selected] at helse
    simpa using helse

theorem Merges.alike {device : DeviceState}
    (hmerges : Merges useAdditionalSlots event virtual merger merger' queue)
    (halike : Alike virtual device) :
    Alike (virtual.decode queue)
      (device.apply (event.shift (merger.offset useAdditionalSlots))) := by
  have heffect : (event.shift (merger.offset useAdditionalSlots)).effect =
      event.effect := by
    rcases event with ⟨_ | _ | _ | _, _⟩ | _ | _ | _ <;> rfl
  constructor
  · rw [hmerges.selected, currentSlot_apply, halike.selected]
    rcases event with ⟨_ | _ | _ | _, _⟩ | _ | _ | _ <;> rfl
  · intro slot
    rw [hmerges.shown, shown_apply, heffect, halike.selected, halike.shown]

theorem btnTouch_choose {slot : Nat}
    (hchoose : merger.choose slot = (merger', queue)) :
    (virtual.decode queue).btnTouch = virtual.btnTouch := by
  rw [choose] at hchoose
  split_ifs at hchoose
  · obtain ⟨-, rfl⟩ := Prod.mk.inj hchoose
    rfl
  · obtain ⟨-, rfl⟩ := Prod.mk.inj hchoose
    exact btnTouch_decode_singleton virtual rfl

theorem btnTouch_assignTrackingId {trackingId : Int}
    (hassign : merger.assignTrackingId trackingId = some (merger', queue)) :
    (virtual.decode queue).btnTouch = virtual.btnTouch := by
  rw [assignTrackingId] at hassign
  split_ifs at hassign
  · obtain ⟨-, rfl⟩ := Prod.mk.inj (Option.some.inj hassign)
    exact btnTouch_decode_singleton virtual rfl
  · obtain ⟨nextId, -, hresult⟩ := Option.map_eq_some_iff.mp hassign
    obtain ⟨-, rfl⟩ := Prod.mk.inj hresult
    exact btnTouch_decode_singleton virtual rfl

theorem btnTouch_filterTouchKey (merger : TouchMerger) (virtual : DeviceState)
    (event : InputEvent) :
    (virtual.decode (merger.filterTouchKey event).2).btnTouch =
      if merger.touchedElsewhere then virtual.btnTouch
      else event.touchValue.getD virtual.btnTouch := by
  rw [filterTouchKey]
  split_ifs
  · rfl
  · exact btnTouch_apply virtual event

/-- A touch key is passed on when no other slot is active. -/
theorem btnTouch_mergeEvent
    (hmerge : merger.mergeEvent useAdditionalSlots event =
      some (merger', queue)) :
    (virtual.decode queue).btnTouch =
      if merger.touchedElsewhere then virtual.btnTouch
      else event.touchValue.getD virtual.btnTouch := by
  have hsame : event.touchValue = none →
      (virtual.decode queue).btnTouch = virtual.btnTouch →
      (virtual.decode queue).btnTouch =
        if merger.touchedElsewhere then virtual.btnTouch
        else event.touchValue.getD virtual.btnTouch := by
    intro hnone hbtn
    rw [hnone, Option.getD_none, ite_self, hbtn]
  rcases event with ⟨_ | _ | _ | _, value⟩ | ⟨_ | _ | _, value⟩ | _ | _
  · obtain ⟨srcSlot, slot, hchoose⟩ := selectSlot_eq_some hmerge
    exact hsame rfl (btnTouch_choose hchoose)
  · exact hsame rfl (btnTouch_assignTrackingId hmerge)
  · cases hmerge
    exact hsame rfl (btnTouch_decode_singleton virtual rfl)
  · cases hmerge
    exact hsame rfl (btnTouch_decode_singleton virtual rfl)
  · obtain ⟨-, rfl⟩ := Prod.mk.inj (Option.some.inj hmerge)
    exact btnTouch_filterTouchKey merger virtual _
  · obtain ⟨-, rfl⟩ := Prod.mk.inj (Option.some.inj hmerge)
    exact btnTouch_filterTouchKey merger virtual _
  · cases hmerge
    exact hsame rfl (btnTouch_decode_singleton virtual rfl)
  · cases hmerge
    exact hsame rfl (btnTouch_decode_singleton virtual rfl)
  · cases hmerge
    exact hsame rfl (btnTouch_decode_singleton virtual rfl)

/-! ## Merged packets -/

/-- The device after the events of a packet and its touch key, from the
events as they came. -/
theorem mergeEvents_touch {evs : List InputEvent} {device : DeviceState}
    {total offset : Nat}
    (htotal : merger.srcSlotCount + merger.addSlotCount = total)
    (hoffset : merger.offset useAdditionalSlots = offset)
    (htracks : Tracks merger virtual) (hfits : total ≤ 2 ^ 31)
    (hbelow : ∀ event ∈ evs,
      event.SelectsBelow (merger.slotCount useAdditionalSlots))
    (hnextId : 0 ≤ merger.allTrackingId ∧ merger.allTrackingId < 2 ^ 31)
    (halike : Alike virtual device)
    (hmerge : merger.mergeEvents useAdditionalSlots evs =
      some (merger', queue)) :
    Alike (virtual.decode queue)
        (device.decode (evs.map (InputEvent.shift offset))) ∧
      (virtual.decode queue).btnTouch =
        (device.seenTouch total (evs.map (InputEvent.shift offset))).getD
          virtual.btnTouch := by
  induction evs generalizing merger virtual device queue with
  | nil =>
    cases hmerge
    exact ⟨halike, rfl⟩
  | cons event evs ih =>
    obtain ⟨first, head, rest, hfirst, hrest, rfl⟩ := mergeEvents_cons hmerge
    obtain ⟨hid, hbound⟩ := allTrackingId_mergeEvent hfirst
    have hlast := hbound hnextId.2
    obtain ⟨_, _, hfirst', hmerges⟩ := exists_mergeEvent htracks
      (htotal.trans_le hfits) (hbelow event List.mem_cons_self) hnextId.1
      (hid ▸ hlast)
    cases hfirst.symm.trans hfirst'
    have halike' := hmerges.alike halike
    rw [hoffset] at halike'
    have hbtn : (virtual.decode head).btnTouch =
        (if device.aloneActive total then (event.shift offset).touchValue
          else none).getD virtual.btnTouch := by
      rw [btnTouch_mergeEvent hfirst, htracks.touchedElsewhere_eq, htotal,
        halike.aloneActive, InputEvent.touchValue_shift]
      cases device.aloneActive total <;> rfl
    have hbelow' : ∀ other ∈ evs,
        other.SelectsBelow (first.slotCount useAdditionalSlots) := by
      rw [hmerges.slotCount_eq.1]
      exact fun other hother => hbelow other (List.mem_cons_of_mem event hother)
    obtain ⟨hdevice, htouch⟩ := ih
      (by rw [hmerges.srcSlotCount, hmerges.addSlotCount, htotal])
      (hmerges.slotCount_eq.2.trans hoffset) hmerges.tracks hbelow'
      ⟨by omega, hlast⟩ halike' hrest
    rw [DeviceState.decode_append]
    refine ⟨hdevice, ?_⟩
    rw [htouch, hbtn, List.map_cons, seenTouch]
    cases seenTouch total (device.apply (event.shift offset))
      (evs.map (InputEvent.shift offset)) <;> rfl

end TouchMerger

namespace TouchScreen

open DeviceState

variable {layout : SlotLayout} {screen next : TouchScreen}

/-! ## Source packets -/

/-- The virtual device as the events of a source packet find it. -/
def ready (screen : TouchScreen) (events : List InputEvent) : DeviceState :=
  if (events.find? InputEvent.isAbsolute).any (fun event => !event.isMtSlot) then
    { screen.virtual with currentSlot := screen.source.currentSlot }
  else screen.virtual

/-- The touch keys of the source that come while no slot but the selected one
is active agree with the slots after the packet. -/
def TouchKeyFits (layout : SlotLayout) (screen : TouchScreen) :
    Packet → Prop
  | .source events =>
    let total := layout.srcSlotCount + layout.addSlotCount
    let after := (screen.ready events).decode events
    match (screen.ready events).seenTouch total events with
    | some value => value = 1 ↔ ∃ slot, after.Active slot
    | none => (∃ slot, screen.virtual.Active slot) ↔ ∃ slot, after.Active slot
  | .touch _ _ => True

/-- There are tracking ids left, and the invariant of the screen holds. -/
structure Running (layout : SlotLayout) (screen : TouchScreen) : Prop extends
    Kept layout screen where
  nextId_lt : screen.merger.allTrackingId < 2 ^ 31

theorem running_init (layout : SlotLayout) : Running layout (init layout) where
  toKept := kept_init layout
  nextId_lt := by
    change (0 : Int) < 2 ^ 31
    decide

theorem Running.nextId (hrunning : Running layout screen) :
    0 ≤ screen.merger.allTrackingId ∧ screen.merger.allTrackingId < 2 ^ 31 :=
  ⟨hrunning.nextId_nonneg, hrunning.nextId_lt⟩

theorem write_eq_some {evs : List InputEvent} {useAdditionalSlots : Bool}
    (hwrite : screen.write evs useAdditionalSlots = some next) :
    ∃ merger queue,
      screen.merger.emit evs useAdditionalSlots = some (merger, queue) ∧
      next = { screen with merger, emitted := screen.emitted ++ queue } := by
  obtain ⟨⟨merger, queue⟩, hemit, rfl⟩ := Option.map_eq_some_iff.mp hwrite
  exact ⟨merger, queue, hemit, rfl⟩

theorem contacts_lt_of_step {packet : Packet}
    (hnextId : screen.merger.allTrackingId < 2 ^ 31)
    (hstep : step screen packet = some next) :
    screen.merger.allTrackingId + Packet.contacts screen.emulator [packet] <
      2 ^ 31 := by
  have hwritten : ∀ evs useAdditionalSlots merger queue,
      screen.merger.emit evs useAdditionalSlots = some (merger, queue) →
      screen.merger.allTrackingId + (contactIds evs).length < 2 ^ 31 := by
    intro evs useAdditionalSlots merger queue hemit
    obtain ⟨hid, hbound⟩ := TouchMerger.allTrackingId_emit hemit
    exact hid ▸ hbound hnextId
  cases packet with
  | source events =>
    obtain ⟨merger, queue, hemit, -⟩ := write_eq_some hstep
    have hroom := hwritten events false merger queue hemit
    rw [Packet.contacts, Packet.contacts]
    exact hroom
  | touch =>
    obtain ⟨outcome, htouch, hbody⟩ := Option.bind_eq_some_iff.mp hstep
    simp only [Packet.contacts, htouch, Nat.add_zero]
    cases hpacket : outcome.packet with
    | none => simpa [contactIds] using hnextId
    | some packet =>
      simp only [hpacket] at hbody
      obtain ⟨merger, queue, hemit, -⟩ := write_eq_some hbody
      exact hwritten packet true merger queue hemit

/-- A packet that is taken leaves the screen running. -/
theorem Running.step {packet : Packet} (hrunning : Running layout screen)
    (hbelow : packet.SlotsBelow layout)
    (hstep : step screen packet = some next) : Running layout next := by
  have hroom := contacts_lt_of_step hrunning.nextId_lt hstep
  obtain ⟨next', hstep', hkept, hnextId⟩ := hrunning.exists_step hbelow hroom
  cases hstep.symm.trans hstep'
  rw [Packet.contacts, Nat.cast_zero, add_zero] at hnextId
  exact ⟨hkept, hnextId ▸ hroom⟩

/-- The slot of the source is selected before its events. -/
theorem Kept.decode_resetSlot (hkept : Kept layout screen)
    (events : List InputEvent) :
    screen.virtual.decode (screen.merger.resetSlot events false).2 =
      screen.ready events := by
  have hselected := hkept.source.tracks.selected
  have hsource := hkept.source.source rfl
  have hinside := hkept.source.inside
  have hfits := hkept.source.fits
  rw [TouchMerger.resetSlot, ready]
  by_cases hany : (events.find? InputEvent.isAbsolute).any
      (fun event => !event.isMtSlot) = true
  · by_cases hsame : screen.merger.allCurrentSlot = screen.merger.srcCurrentSlot
    · have heta : ({ screen.virtual with
          currentSlot := screen.source.currentSlot } : DeviceState) =
          screen.virtual := by
        rw [hsource, ← hsame, ← hselected]
      rw [if_pos hany, heta]
      simp [hsame, DeviceState.decode]
    · have hint : int32 screen.merger.srcCurrentSlot =
          screen.source.currentSlot := by
        rw [TouchMerger.slotCount, if_neg Bool.false_ne_true] at hinside
        rw [hsource]
        exact int32_eq_self (by omega) (by omega)
      simp [hany, hsame, hint, DeviceState.decode, DeviceState.apply]
  · simp [hany, DeviceState.decode]

/-- The virtual device after a source packet. -/
theorem Running.source_touch (hrunning : Running layout screen)
    {events : List InputEvent}
    (hbelow : (Packet.source events).SlotsBelow layout)
    (hstep : TouchScreen.step screen (.source events) = some next) :
    Alike next.virtual ((screen.ready events).decode events) ∧
      next.virtual.btnTouch =
        ((screen.ready events).seenTouch
          (layout.srcSlotCount + layout.addSlotCount) events).getD
            screen.virtual.btnTouch := by
  obtain ⟨merger, queue, hemit, rfl⟩ := write_eq_some hstep
  obtain ⟨rest, hrest, rfl⟩ := TouchMerger.emit_eq_some hemit
  obtain ⟨first, reset, hreset, hlinked, -, hprogress⟩ :=
    TouchMerger.resetSlot_cases events hrunning.source nofun
  have hready := hrunning.decode_resetSlot events
  simp only [hreset] at hrest hready ⊢
  have hbelow' : ∀ event ∈ events,
      event.SelectsBelow (first.slotCount false) := by
    have hcount : first.slotCount false = layout.srcSlotCount :=
      hprogress.srcSlotCount.trans hrunning.srcSlotCount
    rw [hcount]
    exact hbelow
  have hnextId : first.allTrackingId = screen.merger.allTrackingId := by
    rw [hprogress.nextId, Nat.cast_zero, add_zero]
  have htotal : first.srcSlotCount + first.addSlotCount =
      layout.srcSlotCount + layout.addSlotCount := by
    rw [hprogress.srcSlotCount, hprogress.addSlotCount, hrunning.srcSlotCount,
      hrunning.addSlotCount]
  have hoffset : first.offset false = 0 := rfl
  obtain ⟨halike, htouch⟩ := TouchMerger.mergeEvents_touch htotal hoffset
    hlinked.tracks layout.fits hbelow' (hnextId ▸ hrunning.nextId)
    (Alike.refl _) hrest
  have hshift : events.map (InputEvent.shift 0) = events := by
    rw [funext InputEvent.shift_zero, List.map_id']
  have hbtn : (screen.ready events).btnTouch = screen.virtual.btnTouch := by
    rw [ready]
    split_ifs <;> rfl
  have hvirtual : DeviceState.initial.decode
      (screen.emitted ++ (reset ++ rest)) =
        (screen.ready events).decode rest := by
    rw [DeviceState.decode_append, DeviceState.decode_append, ← hready]
    rfl
  rw [hready, hshift] at halike htouch
  rw [virtual, hvirtual, ← hbtn]
  exact ⟨halike, htouch⟩

/-! ## Emulator packets -/

variable {slot : Nat}

theorem map_shift_packet {offset : Nat} (hfits : offset + slot < 2 ^ 31)
    (pos : Option Position) (touchedBefore touchedAfter : Bool) :
    (TouchEmulator.packet slot pos touchedBefore touchedAfter).map
        (InputEvent.shift offset) =
      TouchEmulator.packet (offset + slot) pos touchedBefore touchedAfter := by
  have hslot : int32 slot = slot := int32_eq_self (by omega) (by omega)
  have hsum : int32 (offset + slot : Nat) = (offset + slot : Nat) :=
    int32_eq_self (by omega) (by omega)
  rcases pos with _ | ⟨x, y⟩
  · rw [TouchEmulator.packet_none, TouchEmulator.packet_none, hslot, hsum]
    split_ifs <;> simp [InputEvent.shift]
  · rw [TouchEmulator.packet_some, TouchEmulator.packet_some, hslot, hsum]
    split_ifs <;> simp [InputEvent.shift]

/-- The touch key of an emulator packet is seen when no slot but the touched
one is active. -/
theorem seenTouch_packet (hfits : slot < 2 ^ 31) (device : DeviceState)
    (total : Nat) (pos : Option Position) (touchedBefore touchedAfter : Bool) :
    device.seenTouch total
        (TouchEmulator.packet slot pos touchedBefore touchedAfter) =
      if (if pos.isSome then touchedBefore else touchedAfter) = false ∧
          ∀ other : Nat, other < total → other ≠ slot →
            ¬ device.Active other then
        some (if pos.isSome then 1 else 0)
      else none := by
  have hint : int32 slot = slot := int32_eq_self (by omega) (by omega)
  have halone : ∀ id, ((device.apply (.absolute .mtSlot slot)).apply
      (.absolute .mtTrackingId id)).aloneActive total = true ↔
        ∀ other : Nat, other < total → other ≠ slot →
          ¬ device.Active other := by
    intro id
    rw [aloneActive_iff]
    refine forall_congr' fun other => forall_congr' fun _ => ?_
    have hcurrent : ((device.apply (.absolute .mtSlot slot)).apply
        (.absolute .mtTrackingId id)).currentSlot = slot := rfl
    rw [hcurrent, Ne, Nat.cast_inj]
    refine forall_congr' fun hother => ?_
    have hne : (other : Int) ≠ slot := fun hcast =>
      hother (Nat.cast_inj.mp hcast)
    simp only [DeviceState.apply, DeviceState.Active, Function.update_of_ne hne]
  rcases pos with _ | ⟨x, y⟩
  · rw [TouchEmulator.packet_none, hint]
    cases touchedAfter <;> simp [seenTouch, InputEvent.touchValue, halone]
  · rw [TouchEmulator.packet_some, hint]
    cases touchedBefore <;> simp [seenTouch, InputEvent.touchValue, halone]

/-- The virtual device after a touch of the emulator that is not ignored. -/
theorem Running.touch_touch (hrunning : Running layout screen)
    (hslot : slot < layout.addSlotCount) {pos : Option Position}
    (hstep : TouchScreen.step screen (.touch slot pos) = some next) :
    next = screen ∨
      screen.emulator.slotStates[slot]? = some (!pos.isSome) ∧
        ∃ packet, packet = TouchEmulator.packet (layout.srcSlotCount + slot) pos
            screen.emulator.touched next.emulator.touched ∧
          Alike next.virtual (screen.virtual.decode packet) ∧
          next.virtual.btnTouch =
            (screen.virtual.seenTouch
              (layout.srcSlotCount + layout.addSlotCount) packet).getD
                screen.virtual.btnTouch := by
  have hlt : slot < screen.emulator.slotStates.length :=
    hslot.trans_eq hrunning.length_eq.symm
  have hfits := layout.fits
  rcases TouchEmulator.touch_of_lt (fun _ => true) hlt pos with
    ⟨-, htouch⟩ |
    ⟨hstate, outcome, touchedAfter, htouch, hpacket, hemulator, rfl⟩
  · simp only [TouchScreen.step, htouch, Option.bind_some] at hstep
    exact Or.inl (Option.some.inj hstep).symm
  · simp only [TouchScreen.step, htouch, Option.bind_some, hpacket] at hstep
    obtain ⟨merger, queue, hemit, rfl⟩ := write_eq_some hstep
    obtain ⟨rest, hrest, rfl⟩ := TouchMerger.emit_eq_some hemit
    refine Or.inr ⟨hstate, _, rfl, ?_⟩
    have hreset : screen.merger.resetSlot (TouchEmulator.packet slot pos
        screen.emulator.touched outcome.emulator.touched) true =
          (screen.merger, []) := if_neg (by simp)
    simp only [hreset] at hrest ⊢
    have htotal : screen.merger.srcSlotCount + screen.merger.addSlotCount =
        layout.srcSlotCount + layout.addSlotCount := by
      rw [hrunning.srcSlotCount, hrunning.addSlotCount]
    have hoffset : screen.merger.offset true = layout.srcSlotCount :=
      hrunning.srcSlotCount
    have hcount : screen.merger.slotCount true = layout.addSlotCount :=
      hrunning.addSlotCount
    have htouched := TouchMerger.mergeEvents_touch htotal hoffset
      hrunning.source.tracks layout.fits
      (hcount ▸ TouchEmulator.selectsBelow_packet hslot (by omega) pos _ _)
      hrunning.nextId (Alike.refl _) hrest
    rw [map_shift_packet (by omega)] at htouched
    rw [virtual, DeviceState.decode_append]
    exact htouched

theorem Kept.touched_iff (hkept : Kept layout screen) :
    screen.emulator.touched = true ↔ ∃ slot : Nat, slot < layout.addSlotCount ∧
      screen.virtual.Active (layout.srcSlotCount + slot) := by
  rw [TouchEmulator.touched, List.any_eq_true]
  constructor
  · rintro ⟨state, hmem, hstate⟩
    obtain ⟨slot, hslot⟩ := List.mem_iff_getElem?.mp hmem
    have hlt := (List.getElem?_eq_some_iff.mp hslot).1.trans_eq hkept.length_eq
    refine ⟨slot, hlt, (hkept.merged.emulator_active slot hlt).mpr ?_⟩
    rw [hslot]
    exact congrArg some hstate
  · rintro ⟨slot, hslot, hactive⟩
    have hstate := (hkept.merged.emulator_active slot hslot).mp hactive
    exact ⟨true, List.mem_of_getElem? hstate, rfl⟩

/-- A touch key that is not seen is not needed: another slot is active. -/
theorem exists_other_active {touched : Bool} {total : Nat}
    {device : DeviceState}
    (hunseen : ¬ (touched = false ∧ ∀ other : Nat, other < total →
      other ≠ slot → ¬ device.Active other)) :
    touched = true ∨
      ∃ other : Int, other ≠ slot ∧ device.Active other := by
  by_contra hnone
  push Not at hnone
  refine hunseen ⟨Bool.eq_false_iff.mpr hnone.1, fun other _ hother => ?_⟩
  exact hnone.2 other fun hcast => hother (Nat.cast_inj.mp hcast)

/-- A packet of the emulator makes its slot active or not, and no other. -/
theorem active_packet_iff {device device' : DeviceState}
    {pos : Option Position} {touchedBefore touchedAfter : Bool}
    (halike : Alike device'
      (device.decode (TouchEmulator.packet slot pos touchedBefore touchedAfter)))
    (hfits : slot < 2 ^ 31) (other : Int) :
    device'.Active other ↔
      if other = slot then pos.isSome = true else device.Active other := by
  rw [halike.active_iff, ← shown_fst_iff,
    TouchEmulator.shown_decode_packet _ hfits, ← shown_fst_iff]
  split_ifs <;> rfl

theorem Kept.exists_index (hkept : Kept layout screen) {slot : Int}
    (hactive : screen.virtual.Active slot) :
    ∃ index : Nat, index < layout.srcSlotCount + layout.addSlotCount ∧
      slot = index := by
  have hinside : 0 ≤ slot ∧
      slot < layout.srcSlotCount + layout.addSlotCount := by
    by_contra houtside
    exact hkept.merged.no_other_active slot houtside hactive
  obtain ⟨index, rfl⟩ := Int.eq_ofNat_of_zero_le hinside.1
  exact ⟨index, by omega, rfl⟩

theorem Kept.exists_active_of_touched (hkept : Kept layout screen)
    (htouched : screen.emulator.touched = true) :
    ∃ slot, screen.virtual.Active slot := by
  obtain ⟨slot, -, hactive⟩ := hkept.touched_iff.mp htouched
  exact ⟨_, hactive⟩

section

variable (hrunning : Running layout screen) {slot : Nat}
  (hslot : slot < layout.addSlotCount)
include hrunning hslot

/-- Pressing a slot leaves the key pressed: either it is passed on, or another
slot was active before. -/
theorem Running.press_buttonMatches {position : Position}
    (hstep : TouchScreen.step screen (.touch slot (some position)) = some next)
    (hmatches : screen.virtual.ButtonMatches) : next.virtual.ButtonMatches := by
  have hfits := layout.fits
  rcases hrunning.touch_touch hslot hstep with
    rfl | ⟨-, packet, rfl, halike, hbtn⟩
  · exact hmatches
  have hactive : next.virtual.Active (layout.srcSlotCount + slot : Nat) := by
    rw [active_packet_iff halike (by omega), if_pos rfl]
    rfl
  refine iff_of_true ?_ ⟨_, hactive⟩
  rw [seenTouch_packet (by omega)] at hbtn
  simp only [Option.isSome_some, if_true] at hbtn
  split_ifs at hbtn with hseen
  · exact hbtn
  · rw [hbtn, Option.getD_none]
    apply hmatches.mpr
    rcases exists_other_active hseen with htouched | ⟨other, -, hother⟩
    · exact hrunning.exists_active_of_touched htouched
    · exact ⟨other, hother⟩

/-- Releasing a slot releases the key when it was the last active one. -/
theorem Running.lift_buttonMatches
    (hstep : TouchScreen.step screen (.touch slot none) = some next)
    (hmatches : screen.virtual.ButtonMatches) : next.virtual.ButtonMatches := by
  have hfits := layout.fits
  have hbelow : (Packet.touch slot none).SlotsBelow layout := hslot
  rcases hrunning.touch_touch hslot hstep with
    rfl | ⟨hstate, packet, rfl, halike, hbtn⟩
  · exact hmatches
  have hpressed : screen.virtual.btnTouch = 1 := by
    apply hmatches.mpr
    exact ⟨_, (hrunning.merged.emulator_active slot hslot).mpr hstate⟩
  have hafter : ∀ other, next.virtual.Active other ↔
      other ≠ (layout.srcSlotCount + slot : Nat) ∧
        screen.virtual.Active other := by
    intro other
    rw [active_packet_iff halike (by omega)]
    simp
  rw [seenTouch_packet (by omega)] at hbtn
  simp only [Option.isSome_none, Bool.false_eq_true, if_false] at hbtn
  split_ifs at hbtn with hseen
  · rw [ButtonMatches, hbtn, Option.getD_some]
    refine iff_of_false (by decide) ?_
    rintro ⟨other, hother⟩
    obtain ⟨hne, hactive⟩ := (hafter other).mp hother
    obtain ⟨index, hindex, rfl⟩ := hrunning.exists_index hactive
    exact hseen.2 index hindex (by omega) hactive
  · refine iff_of_true (hbtn.trans hpressed) ?_
    rcases exists_other_active hseen with htouched | ⟨other, hne, hother⟩
    · exact (hrunning.step hbelow hstep).exists_active_of_touched htouched
    · exact ⟨other, (hafter other).mpr ⟨hne, hother⟩⟩

/-- A touch of the emulator keeps the touch key right. -/
theorem Running.touch_buttonMatches {pos : Option Position}
    (hstep : TouchScreen.step screen (.touch slot pos) = some next)
    (hmatches : screen.virtual.ButtonMatches) : next.virtual.ButtonMatches := by
  cases pos with
  | none => exact hrunning.lift_buttonMatches hslot hstep hmatches
  | some position => exact hrunning.press_buttonMatches hslot hstep hmatches

end

/-! ## Runs -/

/-- A source packet keeps the touch key right when the keys that are passed on
fit. -/
theorem Running.source_buttonMatches_iff (hrunning : Running layout screen)
    {events : List InputEvent}
    (hbelow : (Packet.source events).SlotsBelow layout)
    (hstep : TouchScreen.step screen (.source events) = some next)
    (hmatches : screen.virtual.ButtonMatches) :
    next.virtual.ButtonMatches ↔
      TouchKeyFits layout screen (.source events) := by
  obtain ⟨halike, hbtn⟩ := hrunning.source_touch hbelow hstep
  simp only [ButtonMatches, TouchKeyFits, hbtn, halike.active_iff]
  cases (screen.ready events).seenTouch
      (layout.srcSlotCount + layout.addSlotCount) events with
  | none =>
    rw [Option.getD_none]
    exact iff_congr hmatches Iff.rfl
  | some value => rw [Option.getD_some]

/-- The touch key of the virtual device is right after every packet exactly
when the touch keys of each source packet fit. -/
theorem touch_key_right_iff_fits (layout : SlotLayout) (packets : List Packet)
    (hbelow : ∀ packet ∈ packets, packet.SlotsBelow layout) :
    RunHolds step (fun screen => screen.virtual.ButtonMatches) (init layout)
        packets ↔
      RunMeets step (TouchKeyFits layout) (init layout) packets := by
  have hinit : Running layout (init layout) ∧
      (init layout).virtual.ButtonMatches :=
    ⟨running_init layout, buttonMatches_initial⟩
  refine runHolds_iff_runMeets_of_allowed
    (fun screen (hscreen : Running layout screen ∧
      screen.virtual.ButtonMatches) => hscreen.2) ?_ ?_ hinit hbelow
  · rintro screen (_ | _) next hpacket ⟨hrunning, hmatches⟩ hfits hstep
    · exact ⟨hrunning.step hpacket hstep,
        (hrunning.source_buttonMatches_iff hpacket hstep hmatches).mpr hfits⟩
    · exact ⟨hrunning.step hpacket hstep,
        hrunning.touch_buttonMatches hpacket hstep hmatches⟩
  · rintro screen (_ | _) next hpacket ⟨hrunning, hmatches⟩ hfits hstep
    · exact mt (hrunning.source_buttonMatches_iff hpacket hstep hmatches).mp
        hfits
    · exact absurd trivial hfits

theorem touch_key_right_iff_fits_samples :
    RunHolds step (fun screen => screen.virtual.ButtonMatches)
        (init sampleLayout) samplePackets ↔
      RunMeets step (TouchKeyFits sampleLayout) (init sampleLayout)
        samplePackets :=
  touch_key_right_iff_fits sampleLayout samplePackets (by decide)

/-- Two contacts begin in one packet of the source, with the touch key at its
end. -/
def twoContacts : List Packet :=
  [.source [.absolute .mtTrackingId 5, .absolute .mtSlot 1,
    .absolute .mtTrackingId 6, .key .btnTouch 1, .synReport]]

/-- The source reports its contacts and its touch key, but the touch key of the
virtual device stays released. -/
theorem touch_key_not_always_right :
    RunHolds step (fun screen => screen.source.ButtonMatches)
        (init sampleLayout) twoContacts ∧
      ¬ RunHolds step (fun screen => screen.virtual.ButtonMatches)
        (init sampleLayout) twoContacts := by
  obtain ⟨last, hlast⟩ := Option.isSome_iff_exists.mp
    (by decide +kernel : (run step (init sampleLayout)
      twoContacts).isSome = true)
  have hvalues : (run step (init sampleLayout) twoContacts).map (fun last =>
      (last.source.btnTouch, decide (last.source.Active 0),
        last.virtual.btnTouch, decide (last.virtual.Active 0))) =
      some (1, true, 0, true) := by
    decide +kernel
  simp only [hlast, Option.map_some, Option.some.injEq, Prod.mk.injEq,
    decide_eq_true_eq] at hvalues
  obtain ⟨hkey, hactive, hvirtualKey, hvirtualActive⟩ := hvalues
  constructor
  · refine ⟨buttonMatches_initial, fun next hnext => ?_⟩
    obtain ⟨next', hnext', hrest⟩ := run_cons_eq_some.mp hlast
    cases hnext.symm.trans hnext'
    cases hrest
    exact iff_of_true hkey ⟨0, hactive⟩
  · intro hholds
    have hpressed := (hholds.last hlast).mpr ⟨0, hvirtualActive⟩
    exact absurd (hvirtualKey.symm.trans hpressed) (by decide)

end TouchScreen

end HardwareInterfaces.TouchInjector

import HardwareInterfaces.TouchInjector.MergedStream
import HardwareInterfaces.TouchInjector.SlotRanges

/-!
# Packets that cannot be written

The merger, the emulator and the service note a packet before it is written to
the virtual device, and keep what they noted when the device does not take it.
-/

namespace HardwareInterfaces.TouchInjector

/-! ## What the merger notes of a source packet -/

namespace InputEvent

/-- The slot that the source has selected after the event. -/
def selectSlot : InputEvent → Nat → Nat
  | .absolute .mtSlot slot, _ => asUsize slot
  | _, current => current

/-- Whether the event begins or ends the contact of the selected slot. -/
def contact : InputEvent → Option Bool
  | .absolute .mtTrackingId trackingId => some (trackingId != noTrackingId)
  | _ => none

end InputEvent

/-- What the events last say of the contact in a slot, from the selected slot
on. -/
def lastContact (slot : Nat) : Nat → List InputEvent → Option Bool
  | _, [] => none
  | current, event :: evs =>
    (lastContact slot (event.selectSlot current) evs).or
      (if current = slot then event.contact else none)

namespace TouchMerger

variable {merger merger' : TouchMerger} {queue : List InputEvent}
  {event : InputEvent} {evs : List InputEvent}

/-- The slot that the first event of a source packet speaks of. -/
def startSlot (merger : TouchMerger) (evs : List InputEvent) : Nat :=
  if (evs.find? InputEvent.isAbsolute).any (fun event => !event.isMtSlot) then
    merger.srcCurrentSlot
  else merger.allCurrentSlot

/-- The slot that is selected at the end of a source packet. -/
def endSlot (merger : TouchMerger) (evs : List InputEvent) : Nat :=
  evs.foldl (fun slot event => event.selectSlot slot) (merger.startSlot evs)

/-- The packet ends in the slot that is selected, and says of every slot what
is noted of it. -/
def Neutral (merger : TouchMerger) (evs : List InputEvent) : Prop :=
  merger.endSlot evs = merger.allCurrentSlot ∧
    ∀ slot state, merger.allSlotStates[slot]? = some state →
      ∀ contact ∈ lastContact slot (merger.startSlot evs) evs, contact = state

/-- The slots that the virtual device has been told of. -/
def SameSlots (merger merger' : TouchMerger) : Prop :=
  merger'.allCurrentSlot = merger.allCurrentSlot ∧
    merger'.allSlotStates = merger.allSlotStates

theorem slots_choose (merger : TouchMerger) (slot : Nat) :
    (merger.choose slot).1.allCurrentSlot = slot ∧
      (merger.choose slot).1.allSlotStates = merger.allSlotStates := by
  rw [choose]
  split_ifs with hsame
  · exact ⟨hsame, rfl⟩
  · exact ⟨rfl, rfl⟩

/-- A contact is noted for the current slot, and no contact for none. -/
theorem getElem?_of_contact {states states' : List Bool} {current : Nat}
    {contact : Option Bool}
    (hstates : states' = contact.elim states (states.set current))
    (slot : Nat) :
    states'[slot]? = states[slot]?.map fun state =>
      (if current = slot then contact else none).getD state := by
  cases contact with
  | none => simp [hstates]
  | some value =>
    rw [hstates, Option.elim_some, List.getElem?_set']
    split_ifs
    · rfl
    · simp

/-- What one event of the source changes in the notes. -/
theorem slots_mergeEvent
    (hmerge : merger.mergeEvent false event = some (merger', queue)) :
    merger'.allCurrentSlot = event.selectSlot merger.allCurrentSlot ∧
      ∀ slot, merger'.allSlotStates[slot]? =
        merger.allSlotStates[slot]?.map fun state =>
          (if merger.allCurrentSlot = slot then event.contact
            else none).getD state := by
  rcases event with ⟨_ | _ | _ | _, value⟩ | ⟨_ | _ | _, value⟩ | _ | _
  · simp only [mergeEvent, selectSlot, bind, pure,
      Option.bind_eq_some_iff, Bool.false_eq_true, if_false] at hmerge
    obtain ⟨_, -, hchoose⟩ := hmerge
    obtain ⟨hslot, hstates⟩ :=
      slots_choose { merger with srcCurrentSlot := asUsize value }
        (asUsize value)
    rw [Option.some.inj hchoose] at hslot hstates
    exact ⟨hslot, getElem?_of_contact hstates⟩
  · rw [mergeEvent, assignTrackingId] at hmerge
    split_ifs at hmerge with hnone
    · cases hmerge
      exact ⟨rfl, getElem?_of_contact (by simp [InputEvent.contact, hnone])⟩
    · obtain ⟨nextId, -, hresult⟩ := Option.map_eq_some_iff.mp hmerge
      cases hresult
      have hcontact : (value != noTrackingId) = true := bne_iff_ne.mpr hnone
      refine ⟨rfl, getElem?_of_contact ?_⟩
      rw [InputEvent.contact, hcontact, Option.elim_some]
  all_goals first
    | cases hmerge
      exact ⟨rfl, getElem?_of_contact rfl⟩
    | rw [mergeEvent, filterTouchKey] at hmerge
      split_ifs at hmerge <;> cases hmerge <;>
        exact ⟨rfl, getElem?_of_contact rfl⟩

theorem slots_mergeEvents
    (hmerge : merger.mergeEvents false evs = some (merger', queue)) :
    merger'.allCurrentSlot =
        evs.foldl (fun slot event => event.selectSlot slot)
          merger.allCurrentSlot ∧
      ∀ slot, merger'.allSlotStates[slot]? =
        merger.allSlotStates[slot]?.map fun state =>
          (lastContact slot merger.allCurrentSlot evs).getD state := by
  induction evs generalizing merger queue with
  | nil =>
    cases hmerge
    simp [lastContact]
  | cons event evs ih =>
    obtain ⟨first, head, rest, hfirst, hrest, rfl⟩ := mergeEvents_cons hmerge
    obtain ⟨hslot, hstates⟩ := slots_mergeEvent hfirst
    obtain ⟨hslot', hstates'⟩ := ih hrest
    rw [hslot] at hslot' hstates'
    refine ⟨hslot', fun slot => ?_⟩
    rw [hstates', hstates, Option.map_map]
    congr 1
    funext state
    rw [lastContact]
    cases lastContact slot (event.selectSlot merger.allCurrentSlot) evs <;> rfl

theorem slots_resetSlot (merger : TouchMerger) (evs : List InputEvent) :
    (merger.resetSlot evs false).1.allCurrentSlot = merger.startSlot evs ∧
      (merger.resetSlot evs false).1.allSlotStates = merger.allSlotStates := by
  rw [resetSlot, startSlot]
  by_cases hsame : merger.allCurrentSlot = merger.srcCurrentSlot
  · simp [hsame]
  · split_ifs <;> simp_all

/-- A source packet leaves the notes as they were exactly when it is
neutral. -/
theorem sameSlots_emit_iff
    (hemit : merger.emit evs false = some (merger', queue)) :
    merger.SameSlots merger' ↔ merger.Neutral evs := by
  obtain ⟨rest, hmerge, -⟩ := emit_eq_some hemit
  obtain ⟨hslot, hstates⟩ := slots_mergeEvents hmerge
  obtain ⟨hreset, hsame⟩ := merger.slots_resetSlot evs
  rw [hreset] at hslot hstates
  rw [hsame] at hstates
  refine and_congr (by rw [hslot, endSlot]) ?_
  rw [List.ext_getElem?_iff]
  refine forall_congr' fun slot => ?_
  rw [hstates]
  cases merger.allSlotStates[slot]? with
  | none => simp
  | some state => cases lastContact slot (merger.startSlot evs) evs <;> simp

end TouchMerger

/-! ## What the emulator and the service note of a touch -/

namespace TouchEmulator

variable {emit : Emit} {emulator : TouchEmulator} {slot : Nat}
  {pos : Option Position} {evs : List InputEvent}

/-- The packet that a touch hands to the merger. -/
def packetOf (emulator : TouchEmulator) (slot : Nat) (pos : Option Position) :
    Option (List InputEvent) :=
  (emulator.touch (fun _ => false) slot pos).bind TouchOutcome.packet

/-- A touch with a packet changes its slot. -/
theorem getElem?_of_packetOf (hpacket : emulator.packetOf slot pos = some evs) :
    emulator.slotStates[slot]? = some (!pos.isSome) := by
  obtain ⟨outcome, htouch, houtcome⟩ := Option.bind_eq_some_iff.mp hpacket
  by_cases hslot : slot < emulator.slotStates.length
  · rcases touch_of_lt (fun _ => false) hslot pos with ⟨-, hsame⟩ | ⟨hstate, -⟩
    · cases hsame.symm.trans htouch
      cases houtcome
    · exact hstate
  · rw [touch, List.getElem?_eq_none (not_lt.mp hslot)] at htouch
    split_ifs at htouch
    cases htouch
    cases houtcome

section

variable {next : TouchEmulator}
  (hpacket : emulator.packetOf slot pos = some evs)
  (hnext : emulator.touchState emit slot pos = some next)
include hpacket hnext

theorem slotStates_ne_of_packetOf : next.slotStates ≠ emulator.slotStates := by
  intro hsame
  have hstate := getElem?_of_packetOf hpacket
  obtain ⟨hslot, -⟩ := List.getElem?_eq_some_iff.mp hstate
  rw [← hsame, slotStates_touchState hnext,
    List.getElem?_set_self hslot] at hstate
  exact Bool.not_ne_self _ (Option.some.inj hstate).symm

/-- The same touch has no packet a second time. -/
theorem packetOf_again : next.packetOf slot pos = none := by
  obtain ⟨hslot, -⟩ :=
    List.getElem?_eq_some_iff.mp (getElem?_of_packetOf hpacket)
  rw [Option.eq_none_iff_forall_ne_some]
  intro evs' hagain
  have hstate := getElem?_of_packetOf hagain
  rw [slotStates_touchState hnext, List.getElem?_set_self hslot] at hstate
  exact Bool.not_ne_self _ (Option.some.inj hstate).symm

end

end TouchEmulator

namespace Call

variable {Client : Type}

/-- The slot of the client that a touch is about. -/
def slot : Call Client → Nat
  | .beginTouch _ slotId _ _ => asUsize slotId
  | .endTouch _ slotId => asUsize slotId
  | _ => 0

def presses : Call Client → Bool
  | .beginTouch _ _ _ _ => true
  | _ => false

end Call

namespace TouchInjectorService

variable {Client : Type} [LinearOrder Client] {emit : Emit}
  {service next : TouchInjectorService Client} {client : Client} {slot : Nat}
  {call : Call Client} {pos : Option Position}

/-- The touch that a call hands to the emulator. -/
def passesOn (service : TouchInjectorService Client) :
    Call Client → Option (Nat × Option Position)
  | .beginTouch client slotId x y => do
      let range ← service.slotRangeMap.lookup client
      guard (inRange range slotId)
      let pressedPosition ← service.pressedEntry client (asUsize slotId)
      guard pressedPosition.isNone
      let x ← checkedMul x 10
      let y ← checkedMul y 10
      return (range.start + asUsize slotId, some (x, y))
  | .endTouch client slotId => do
      let range ← service.slotRangeMap.lookup client
      guard (inRange range slotId)
      let pressedPosition ← service.pressedEntry client (asUsize slotId)
      guard pressedPosition.isSome
      return (range.start + asUsize slotId, none)
  | _ => none

section

variable (hpasses : service.passesOn call = some (slot, pos))
include hpasses

/-- Only a touch that changes the pressed entry is passed on. -/
theorem passesOn_eq_some :
    pos.isSome = call.presses ∧
      ∃ entry, service.pressedEntry call.client call.slot = some entry ∧
        entry.isSome = !call.presses := by
  cases call with
  | registerClient | unregisterClient => exact nomatch hpasses
  | beginTouch =>
    simp only [passesOn, bind, pure, Option.bind_eq_some_iff,
      Option.guard_eq_some'] at hpasses
    obtain ⟨range, -, -, -, entry, hentry, -, hnone, x', -, y', -, hresult⟩ :=
      hpasses
    cases hresult
    exact ⟨rfl, entry, hentry, by simpa [Call.presses] using hnone⟩
  | endTouch =>
    simp only [passesOn, bind, pure, Option.bind_eq_some_iff,
      Option.guard_eq_some'] at hpasses
    obtain ⟨range, -, -, -, entry, hentry, -, hsome, hresult⟩ := hpasses
    cases hresult
    exact ⟨rfl, entry, hentry, hsome⟩

/-- A call that is passed on is answered with success, and the touch is noted,
whatever becomes of the packet. -/
theorem handle_of_passesOn (emit : Emit) :
    service.handle emit call =
      ((service.setPressed call.client call.slot pos).touch emit slot
        pos).map fun next => (.ok, next) := by
  cases call with
  | registerClient | unregisterClient => exact nomatch hpasses
  | beginTouch =>
    simp only [passesOn, bind, pure, Option.bind_eq_some_iff,
      Option.guard_eq_some'] at hpasses
    obtain ⟨range, hrange, -, hin, entry, hentry, -, hnone, x', hx, y', hy,
      hresult⟩ := hpasses
    cases hresult
    cases Option.isNone_iff_eq_none.mp hnone
    simp only [handle, beginTouch, withRange, hrange, hin, press, hentry, hx,
      hy, bind, pure, Option.bind_some, Option.map_eq_bind]
    rfl
  | endTouch =>
    simp only [passesOn, bind, pure, Option.bind_eq_some_iff,
      Option.guard_eq_some'] at hpasses
    obtain ⟨range, hrange, -, hin, entry, hentry, -, hsome, hresult⟩ := hpasses
    cases hresult
    obtain ⟨position, rfl⟩ := Option.isSome_iff_exists.mp hsome
    simp only [handle, endTouch, withRange, hrange, hin, lift, hentry, bind,
      pure, Option.bind_some, Option.map_eq_bind]
    rfl

theorem step_of_passesOn (hstep : service.step (emit, call) = some next) :
    service.touchEmulator.touchState emit slot pos =
        some next.touchEmulator ∧
      next.pressedEntry call.client call.slot = some pos := by
  rw [step, handle_of_passesOn hpasses, Option.map_map] at hstep
  obtain ⟨last, htouch, rfl⟩ := Option.map_eq_some_iff.mp hstep
  obtain ⟨emulator, hemulator, rfl⟩ := Option.map_eq_some_iff.mp htouch
  obtain ⟨-, entry, hentry, -⟩ := passesOn_eq_some hpasses
  obtain ⟨positions, hpositions, hslot⟩ := pressedEntry_eq_some hentry
  refine ⟨hemulator, ?_⟩
  calc ((service.setPressed call.client call.slot
          pos).pressedPositionMap.lookup call.client).bind (·[call.slot]?)
      = (positions.set call.slot pos)[call.slot]? := by
        rw [lookup_setPressed hpositions, Function.update_self, Option.bind_some]
    _ = some pos := List.getElem?_set_self hslot

/-- The same call is not passed on a second time. -/
theorem passesOn_again (hstep : service.step (emit, call) = some next) :
    next.passesOn call = none := by
  rw [Option.eq_none_iff_forall_ne_some]
  rintro ⟨slot', pos'⟩ hagain
  obtain ⟨-, entry, hentry, hchanges⟩ := passesOn_eq_some hagain
  cases (step_of_passesOn hpasses hstep).2.symm.trans hentry
  rw [(passesOn_eq_some hpasses).1] at hchanges
  exact Bool.not_ne_self _ hchanges.symm

end

end TouchInjectorService

/-! ## Packets that are lost -/

/-- The service and the merger that its emulator writes to. -/
structure Injector (Client : Type) [LinearOrder Client] where
  service : TouchInjectorService Client
  merger : TouchMerger

/-- Whoever has a packet written: the source device, the service when it lifts
or restores a touch, or a call of a client. -/
inductive Request (Client : Type) where
  | source (evs : List InputEvent)
  | touch (slot : Nat) (pos : Option Position)
  | call (call : Call Client)

def Request.useAdditionalSlots {Client : Type} : Request Client → Bool
  | .source _ => false
  | .touch _ _ => true
  | .call _ => true

namespace Injector

variable {Client : Type} [LinearOrder Client]

/-- The packet that is handed to the merger, if there is one. -/
def packetOf (injector : Injector Client) :
    Request Client → Option (List InputEvent)
  | .source evs => some evs
  | .touch slot pos => injector.service.touchEmulator.packetOf slot pos
  | .call call => do
      let (slot, pos) ← injector.service.passesOn call
      injector.service.touchEmulator.packetOf slot pos

/-- The service after the request. -/
def noted (injector : Injector Client) :
    Request Client → Option (TouchInjectorService Client)
  | .source _ => some injector.service
  | .touch slot pos => injector.service.touch (fun _ => false) slot pos
  | .call call => injector.service.step (fun _ => false, call)

/-- A request whose packet cannot be written; `none` if there is no packet, or
for a panic. -/
def failedWrite (injector : Injector Client) (request : Request Client) :
    Option (Injector Client) := do
  let evs ← injector.packetOf request
  let (merger, _) ← injector.merger.emit evs request.useAdditionalSlots
  let service ← injector.noted request
  return { service, merger }

theorem failedWrite_eq_some {injector next : Injector Client}
    {request : Request Client}
    (hfailed : injector.failedWrite request = some next) :
    ∃ evs queue, injector.packetOf request = some evs ∧
      injector.merger.emit evs request.useAdditionalSlots =
        some (next.merger, queue) ∧
      injector.noted request = some next.service := by
  simp only [failedWrite, bind, pure, Option.bind_eq_some_iff] at hfailed
  obtain ⟨evs, hpacket, ⟨merger, queue⟩, hemit, service, hnoted, hnext⟩ :=
    hfailed
  cases hnext
  exact ⟨evs, queue, hpacket, hemit, hnoted⟩

/-- The notes are as before. -/
structure AsBefore (injector next : Injector Client) : Prop where
  slots : injector.merger.SameSlots next.merger
  slotStates : next.service.touchEmulator.slotStates =
    injector.service.touchEmulator.slotStates
  pressed : ∀ client slot, next.service.pressedEntry client slot =
    injector.service.pressedEntry client slot

/-- The packet is one of the source that says nothing new. -/
def SaysNothingNew (injector : Injector Client) : Request Client → Prop
  | .source evs => injector.merger.Neutral evs
  | .touch _ _ => False
  | .call _ => False

/-- A touch whose packet is lost has changed its slot and is not sent
again. -/
theorem failedWrite_of_touch {injector next : Injector Client}
    {request : Request Client}
    (hfailed : injector.failedWrite request = some next)
    (htouch : request.useAdditionalSlots = true) :
    next.service.touchEmulator.slotStates ≠
        injector.service.touchEmulator.slotStates ∧
      next.packetOf request = none := by
  obtain ⟨evs, queue, hpacket, -, hnoted⟩ := failedWrite_eq_some hfailed
  cases request with
  | source evs => exact nomatch htouch
  | touch =>
    obtain ⟨emulator, hemulator, hservice⟩ := Option.map_eq_some_iff.mp hnoted
    rw [packetOf, ← hservice]
    exact ⟨TouchEmulator.slotStates_ne_of_packetOf hpacket hemulator,
      TouchEmulator.packetOf_again hpacket hemulator⟩
  | call call =>
    obtain ⟨⟨slot, pos⟩, hpasses, hpacket⟩ := Option.bind_eq_some_iff.mp hpacket
    have hemulator :=
      (TouchInjectorService.step_of_passesOn hpasses hnoted).1
    refine ⟨TouchEmulator.slotStates_ne_of_packetOf hpacket hemulator, ?_⟩
    rw [packetOf, TouchInjectorService.passesOn_again hpasses hnoted]
    rfl

/-- The notes are as before a packet that is lost, and it can be sent again,
exactly when the packet says nothing new.  A touch is never sent again. -/
theorem lost_packet_unnoted_iff_nothing_new (injector next : Injector Client)
    (request : Request Client)
    (hfailed : injector.failedWrite request = some next) :
    (injector.AsBefore next ∧ (next.packetOf request).isSome ↔
      injector.SaysNothingNew request) ∧
    (request.useAdditionalSlots = true → next.packetOf request = none) := by
  refine ⟨?_, fun htouch => (failedWrite_of_touch hfailed htouch).2⟩
  cases request with
  | source evs =>
      obtain ⟨evs', queue, hpacket, hemit, hnoted⟩ := failedWrite_eq_some hfailed
      cases hpacket
      rw [SaysNothingNew, ← TouchMerger.sameSlots_emit_iff hemit]
      have hservice : injector.service = next.service := Option.some.inj hnoted
      constructor
      · rintro ⟨hbefore, -⟩
        exact hbefore.slots
      · intro hslots
        refine ⟨⟨hslots, ?_, fun client slot => ?_⟩, rfl⟩
        · rw [hservice]
        · rw [hservice]
  | touch slot pos =>
      have hchanged := (failedWrite_of_touch hfailed rfl).1
      exact iff_of_false (fun hsame => hchanged hsame.1.slotStates) id
  | call call =>
      have hchanged := (failedWrite_of_touch hfailed rfl).1
      exact iff_of_false (fun hsame => hchanged hsame.1.slotStates) id

/-- A client has two slots and has not touched them yet. -/
def idle : Injector Nat where
  service :=
    { slotCount := 2
      slotRangeMap := OrderedMap.empty.insert 1 ⟨0, 2⟩
      pressedPositionMap := OrderedMap.empty.insert 1 [none, none]
      touchEmulator := .new 10 }
  merger := .new 2 10

/-- The source moves its contact. -/
def movePacket : List InputEvent :=
  [.absolute (.mt .positionX) 40, .synReport]

theorem lost_move_unnoted :
    ∃ next, idle.failedWrite (.source movePacket) = some next ∧
      idle.AsBefore next := by
  have hlost : (idle.failedWrite (.source movePacket)).isSome := by
    decide +kernel
  obtain ⟨next, hnext⟩ := Option.isSome_iff_exists.mp hlost
  have hneutral : idle.merger.Neutral movePacket := by
    refine ⟨by decide, fun slot state _ contact hcontact => ?_⟩
    simp [movePacket, lastContact, InputEvent.contact] at hcontact
  exact ⟨next, hnext,
    ((lost_packet_unnoted_iff_nothing_new idle next _ hnext).1.mpr hneutral).1⟩

theorem isSome_failedWrite_idle :
    (idle.failedWrite (.call (.beginTouch 1 0 5 5))).isSome = true := by
  decide +kernel

/-- The packet of the first touch is lost.  The merger, the emulator and the
service have it noted, and the client that tries again is refused. -/
theorem lost_touch_noted :
    ∃ next, idle.failedWrite (.call (.beginTouch 1 0 5 5)) = some next ∧
      ¬ idle.AsBefore next ∧
      next.merger.allCurrentSlot = 2 ∧
      next.merger.allSlotStates[2]? = some true ∧
      next.service.touchEmulator.slotStates[0]? = some true ∧
      next.service.pressedEntry 1 0 = some (some (50, 50)) ∧
      (next.service.beginTouch (fun _ => true) 1 0 5 5).map Prod.fst =
        some (.invalidArgument "Touch on this slot is already active") := by
  refine ⟨_, (Option.some_get isSome_failedWrite_idle).symm, ?_,
    by decide +kernel⟩
  intro hbefore
  exact absurd hbefore.slotStates (by decide +kernel)

end Injector

end HardwareInterfaces.TouchInjector

import HardwareInterfaces.Core.Transition
import HardwareInterfaces.TouchInjector.TouchMerger

/-!
# The merged stream

Whoever reads the virtual device by the protocol sees the source device and
the emulator side by side: each of their slots shows what its producer shows
there, however the packets alternate, and every contact has a tracking id of
its own.

Each producer has its part of the virtual slots.  An event that is passed on
has the same effect on the selected slot as the event had for its producer, so
it is enough that the selected slots correspond whenever an event has an
effect.
-/

namespace HardwareInterfaces.TouchInjector

open Transition MachineArithmetic

/-- An event that selects a slot selects one of the first `count`. -/
def InputEvent.SelectsBelow (count : Nat) : InputEvent → Prop
  | .absolute .mtSlot slot => 0 ≤ slot ∧ slot < count
  | _ => True

instance (count : Nat) : DecidablePred (InputEvent.SelectsBelow count)
  | .absolute .mtSlot _ => inferInstanceAs (Decidable (_ ∧ _))
  | .absolute .mtTrackingId _ | .absolute (.mt _) _ | .absolute (.other _) _
  | .key _ _ | .synReport | .other _ _ _ => isTrue trivial

theorem InputEvent.select_of_not_mtSlot {event : InputEvent}
    (hslot : event.isMtSlot = false) (current : Int) :
    event.select current = current := by
  rcases event with ⟨_ | _ | _ | _, _⟩ | _ | _ | _
  · exact nomatch hslot
  all_goals rfl

theorem InputEvent.SelectsBelow.select {event : InputEvent} {count : Nat}
    {current : Int} (hbelow : event.SelectsBelow count)
    (hcurrent : 0 ≤ current ∧ current < count) :
    0 ≤ event.select current ∧ event.select current < count := by
  rcases event with ⟨_ | _ | _ | _, _⟩ | _ | _ | _
  · exact hbelow
  all_goals exact hcurrent

namespace TouchMerger

variable {merger merger' : TouchMerger} {virtual : DeviceState}
  {useAdditionalSlots : Bool} {event : InputEvent} {queue : List InputEvent}

/-- The first virtual slot of the producer. -/
def offset (merger : TouchMerger) (useAdditionalSlots : Bool) : Nat :=
  if useAdditionalSlots then merger.srcSlotCount else 0

/-- The number of slots of the producer. -/
def slotCount (merger : TouchMerger) (useAdditionalSlots : Bool) : Nat :=
  if useAdditionalSlots then merger.addSlotCount else merger.srcSlotCount

theorem slotCount_eq_of_counts
    (hsrc : merger'.srcSlotCount = merger.srcSlotCount)
    (hadd : merger'.addSlotCount = merger.addSlotCount) :
    merger'.slotCount useAdditionalSlots =
        merger.slotCount useAdditionalSlots ∧
      merger'.offset useAdditionalSlots = merger.offset useAdditionalSlots := by
  rw [slotCount, slotCount, offset, offset, hsrc, hadd]
  exact ⟨rfl, rfl⟩

/-- The merger knows the selected slot and the active slots of the virtual
device. -/
structure Tracks (merger : TouchMerger) (virtual : DeviceState) : Prop where
  selected : virtual.currentSlot = merger.allCurrentSlot
  length_eq : merger.allSlotStates.length =
    merger.srcSlotCount + merger.addSlotCount
  states : ∀ slot : Nat, slot < merger.allSlotStates.length →
    merger.allSlotStates[slot]? = some (virtual.shown slot).1

/-- The events in the queue do to the virtual device what the event does to
its producer. -/
structure Merges (useAdditionalSlots : Bool) (event : InputEvent)
    (virtual : DeviceState) (merger merger' : TouchMerger)
    (queue : List InputEvent) : Prop where
  tracks : Tracks merger' (virtual.decode queue)
  shown : ∀ slot, (virtual.decode queue).shown slot =
    if slot = virtual.currentSlot then event.effect (virtual.shown slot)
    else virtual.shown slot
  selected : (virtual.decode queue).currentSlot =
    if event.isMtSlot then merger.offset useAdditionalSlots + event.select 0
    else virtual.currentSlot
  srcSelected : (merger'.srcCurrentSlot : Int) =
    if useAdditionalSlots then (merger.srcCurrentSlot : Int)
    else event.select merger.srcCurrentSlot
  srcSlotCount : merger'.srcSlotCount = merger.srcSlotCount
  addSlotCount : merger'.addSlotCount = merger.addSlotCount
  ids : contactIds queue =
    event.contactId.toList.map fun _ => merger.allTrackingId
  nextId : merger'.allTrackingId =
    merger.allTrackingId + event.contactId.toList.length

/-! ## Single events -/

theorem Tracks.congr {virtual' : DeviceState} (htracks : Tracks merger virtual)
    (hselected : virtual'.currentSlot = virtual.currentSlot)
    (hshown : ∀ slot, (virtual'.shown slot).1 = (virtual.shown slot).1) :
    Tracks merger virtual' where
  selected := hselected.trans htracks.selected
  length_eq := htracks.length_eq
  states := by
    intro slot hslot
    rw [hshown]
    exact htracks.states slot hslot

/-- Events that neither select a slot nor begin or end a contact are passed
on as they are. -/
theorem merges_same (htracks : Tracks merger virtual)
    (hslot : event.isMtSlot = false)
    (hactive : ∀ view, (event.effect view).1 = view.1)
    (hcontact : event.contactId = none) :
    Merges useAdditionalSlots event virtual merger merger [event] := by
  have hselect := InputEvent.select_of_not_mtSlot hslot
  have hcurrent : (virtual.decode [event]).currentSlot = virtual.currentSlot :=
    (virtual.currentSlot_apply event).trans (hselect _)
  have hshown := virtual.shown_apply event
  refine ⟨htracks.congr hcurrent fun slot => ?_, hshown, ?_, ?_, rfl, rfl, ?_, ?_⟩
  · rw [DeviceState.decode, List.foldl_cons, List.foldl_nil, hshown]
    split_ifs
    · exact hactive _
    · rfl
  · rw [hslot, hcurrent]
    rfl
  · rw [hselect, ite_self]
  · simp [contactIds, hcontact]
  · simp [hcontact]

/-- A dropped event has no effect on a slot. -/
theorem merges_dropped (htracks : Tracks merger virtual)
    (hslot : event.isMtSlot = false)
    (heffect : ∀ view, event.effect view = view)
    (hcontact : event.contactId = none) :
    Merges useAdditionalSlots event virtual merger merger [] := by
  refine ⟨htracks, fun slot => ?_, ?_, ?_, rfl, rfl, ?_, ?_⟩
  · rw [heffect, ite_self]
    rfl
  · rw [hslot]
    rfl
  · rw [InputEvent.select_of_not_mtSlot hslot, ite_self]
  · rw [hcontact]
    rfl
  · rw [hcontact]
    exact (add_zero _).symm

variable {value : Int}

/-- Selecting a slot changes nothing that the slots show. -/
theorem merges_choose (htracks : Tracks merger virtual) (slot srcSlot : Nat)
    (hslot : (slot : Int) = merger.offset useAdditionalSlots + value)
    (hfits : slot < 2 ^ 31) (hsrc : (srcSlot : Int) =
      if useAdditionalSlots then (merger.srcCurrentSlot : Int) else value) :
    Merges useAdditionalSlots (.absolute .mtSlot value) virtual merger
      ({ merger with srcCurrentSlot := srcSlot }.choose slot).1
      ({ merger with srcCurrentSlot := srcSlot }.choose slot).2 := by
  have hint : int32 slot = slot := int32_eq_self (by omega) (by omega)
  by_cases hcurrent : merger.allCurrentSlot = slot
  · rw [choose, if_pos hcurrent]
    refine ⟨⟨htracks.selected, htracks.length_eq, htracks.states⟩, ?_, ?_, hsrc,
      rfl, rfl, rfl, ?_⟩
    · intro other
      exact (ite_self _).symm
    · calc virtual.currentSlot = merger.allCurrentSlot := htracks.selected
        _ = merger.offset useAdditionalSlots + value := by rw [hcurrent, hslot]
    · exact (add_zero _).symm
  · rw [choose, if_neg hcurrent, hint]
    refine ⟨⟨rfl, htracks.length_eq, htracks.states⟩, ?_, hslot, hsrc,
      rfl, rfl, rfl, ?_⟩
    · intro other
      exact (ite_self _).symm
    · exact (add_zero _).symm

theorem checkedAdd_of_lt {left right : Nat} (hsum : left + right < 2 ^ 64) :
    checkedAdd left right = some (left + right) :=
  if_pos hsum

section

variable (htracks : Tracks merger virtual)
include htracks

theorem exists_selectSlot
    (hfits : merger.srcSlotCount + merger.addSlotCount ≤ 2 ^ 31)
    (hbelow : 0 ≤ value ∧ value < merger.slotCount useAdditionalSlots) :
    ∃ merger' queue,
      merger.selectSlot useAdditionalSlots value = some (merger', queue) ∧
      Merges useAdditionalSlots (.absolute .mtSlot value) virtual merger merger'
        queue := by
  obtain ⟨hlower, hupper⟩ := hbelow
  cases useAdditionalSlots with
  | true =>
    rw [slotCount, if_pos rfl] at hupper
    have hcast := asUsize_cast hlower (by omega)
    have hcheck : checkedAdd (asUsize value) 1 = some (asUsize value + 1) :=
      checkedAdd_of_lt (by omega)
    have hslot : checkedAdd merger.srcSlotCount (asUsize value) =
        some (merger.srcSlotCount + asUsize value) :=
      checkedAdd_of_lt (by omega)
    refine ⟨_, _, ?_, merges_choose htracks
      (merger.srcSlotCount + asUsize value) merger.srcCurrentSlot ?_ (by omega)
      rfl⟩
    · simp only [selectSlot, hcheck, hslot]
      rfl
    · rw [Nat.cast_add, hcast]
      rfl
  | false =>
    rw [slotCount, if_neg Bool.false_ne_true] at hupper
    have hcast := asUsize_cast hlower (by omega)
    have hcheck : checkedAdd (asUsize value) 1 = some (asUsize value + 1) :=
      checkedAdd_of_lt (by omega)
    refine ⟨_, _, ?_, merges_choose htracks (asUsize value) (asUsize value)
      ?_ (by omega) hcast⟩
    · simp only [selectSlot, hcheck]
      rfl
    · rw [hcast]
      exact (zero_add value).symm

/-- A tracking id may be replaced by one that is minus one for the same
events. -/
theorem merges_trackingId {trackingId emitted nextId : Int}
    (hemitted : (emitted != noTrackingId) = (trackingId != noTrackingId))
    (hid : trackingId ≠ noTrackingId → emitted = merger.allTrackingId)
    (hnextId : nextId = merger.allTrackingId +
      (InputEvent.absolute .mtTrackingId trackingId).contactId.toList.length) :
    Merges useAdditionalSlots (.absolute .mtTrackingId trackingId) virtual merger
      { merger with
        allTrackingId := nextId
        allSlotStates := merger.allSlotStates.set merger.allCurrentSlot
          (trackingId != noTrackingId) }
      [.absolute .mtTrackingId emitted] := by
  have hshown : ∀ slot,
      (virtual.decode [.absolute .mtTrackingId emitted]).shown slot =
        if slot = virtual.currentSlot then
          (InputEvent.absolute .mtTrackingId trackingId).effect
            (virtual.shown slot)
        else virtual.shown slot := by
    intro slot
    rw [DeviceState.decode, List.foldl_cons, List.foldl_nil,
      DeviceState.shown_apply, InputEvent.effect, InputEvent.effect, hemitted]
  refine ⟨⟨htracks.selected, ?_, fun slot hslot => ?_⟩, hshown, rfl, ?_, rfl, rfl,
    ?_, hnextId⟩
  · rw [List.length_set]
    exact htracks.length_eq
  · rw [List.length_set] at hslot
    rw [hshown, htracks.selected]
    split_ifs with hcurrent
    · rw [Nat.cast_inj.mp hcurrent] at hslot ⊢
      exact List.getElem?_set_self hslot
    · have hne : merger.allCurrentSlot ≠ slot :=
        fun heq => hcurrent (congrArg Nat.cast heq.symm)
      rw [List.getElem?_set_ne hne]
      exact htracks.states slot hslot
  · exact (ite_self _).symm
  · by_cases hnone : trackingId = noTrackingId
    · have hemitted' : emitted = noTrackingId := by simpa [hnone] using hemitted
      simp [contactIds, InputEvent.contactId, hnone, hemitted']
    · have hemitted' : emitted ≠ noTrackingId :=
        bne_iff_ne.mp (hemitted.trans (bne_iff_ne.mpr hnone))
      simp [contactIds, InputEvent.contactId, hnone, hemitted', ← hid hnone]

/-- A contact gets the next tracking id, which is not minus one. -/
theorem exists_assignTrackingId {trackingId : Int}
    (hnextId : 0 ≤ merger.allTrackingId) (hroom : merger.allTrackingId +
      (InputEvent.absolute .mtTrackingId trackingId).contactId.toList.length <
        2 ^ 31) :
    ∃ merger' queue,
      merger.assignTrackingId trackingId = some (merger', queue) ∧
      Merges useAdditionalSlots (.absolute .mtTrackingId trackingId) virtual
        merger merger' queue := by
  by_cases hnone : trackingId = noTrackingId
  · refine ⟨_, _, if_pos hnone, ?_⟩
    have hactive : (trackingId != noTrackingId) = false := by simp [hnone]
    rw [← hactive]
    apply merges_trackingId htracks rfl
    · exact fun hne => absurd hnone hne
    · simp [InputEvent.contactId, hnone]
  · have hactive : (trackingId != noTrackingId) = true := bne_iff_ne.mpr hnone
    have hfresh : merger.allTrackingId ≠ noTrackingId := by
      have hminus : noTrackingId = -1 := rfl
      omega
    have hone : (InputEvent.absolute .mtTrackingId
        trackingId).contactId.toList.length = 1 := by
      simp [InputEvent.contactId, hnone]
    have hincrement : increment merger.allTrackingId =
        some (merger.allTrackingId + 1) := by
      rw [hone] at hroom
      exact if_pos hroom
    refine ⟨_, _, ?_, merges_trackingId htracks
      ((bne_iff_ne.mpr hfresh).trans hactive.symm) (fun _ => rfl) rfl⟩
    rw [assignTrackingId, if_neg hnone, hincrement, hone, hactive]
    rfl

/-- Every event is merged. -/
theorem exists_mergeEvent
    (hfits : merger.srcSlotCount + merger.addSlotCount ≤ 2 ^ 31)
    (hbelow : event.SelectsBelow (merger.slotCount useAdditionalSlots))
    (hnextId : 0 ≤ merger.allTrackingId)
    (hroom : merger.allTrackingId + event.contactId.toList.length < 2 ^ 31) :
    ∃ merger' queue,
      merger.mergeEvent useAdditionalSlots event = some (merger', queue) ∧
      Merges useAdditionalSlots event virtual merger merger' queue := by
  have hforward : event.isMtSlot = false →
      (∀ view, (event.effect view).1 = view.1) → event.contactId = none →
      Merges useAdditionalSlots event virtual merger merger [event] :=
    merges_same htracks
  have hkey : ∀ key value, event = .key key value →
      Merges useAdditionalSlots event virtual merger
        (merger.filterTouchKey event).1 (merger.filterTouchKey event).2 := by
    rintro key value rfl
    rw [filterTouchKey]
    split_ifs
    · exact merges_dropped htracks rfl (fun _ => rfl) rfl
    · exact hforward rfl (fun _ => rfl) rfl
  rcases event with ⟨_ | _ | _ | _, value⟩ | ⟨_ | _ | _, value⟩ | _ | _
  · exact exists_selectSlot htracks hfits hbelow
  · exact exists_assignTrackingId htracks hnextId hroom
  · exact ⟨_, _, rfl, hforward rfl (fun _ => rfl) rfl⟩
  · exact ⟨_, _, rfl, hforward rfl (fun _ => rfl) rfl⟩
  · exact ⟨_, _, rfl, hkey _ _ rfl⟩
  · exact ⟨_, _, rfl, hkey _ _ rfl⟩
  · exact ⟨_, _, rfl, hforward rfl (fun _ => rfl) rfl⟩
  · exact ⟨_, _, rfl, hforward rfl (fun _ => rfl) rfl⟩
  · exact ⟨_, _, rfl, hforward rfl (fun _ => rfl) rfl⟩

end

/-! ## Tracking ids -/

theorem allTrackingId_choose {slot : Nat}
    (hchoose : merger.choose slot = (merger', queue)) :
    merger'.allTrackingId = merger.allTrackingId := by
  rw [choose] at hchoose
  split_ifs at hchoose
  · rw [← (Prod.mk.inj hchoose).1]
  · rw [← (Prod.mk.inj hchoose).1]

/-- Selecting a slot only changes which slots are selected. -/
theorem selectSlot_eq_some
    (hselect : merger.selectSlot useAdditionalSlots value =
      some (merger', queue)) :
    ∃ srcSlot slot, { merger with srcCurrentSlot := srcSlot }.choose slot =
      (merger', queue) := by
  simp only [selectSlot, bind, pure, Option.bind_eq_some_iff] at hselect
  obtain ⟨_, -, hchoose⟩ := hselect
  split_ifs at hchoose
  · obtain ⟨slot, -, hslot⟩ := Option.bind_eq_some_iff.mp hchoose
    exact ⟨merger.srcCurrentSlot, slot, Option.some.inj hslot⟩
  · exact ⟨asUsize value, asUsize value, Option.some.inj hchoose⟩

theorem allTrackingId_filterTouchKey
    (hfilter : merger.filterTouchKey event = (merger', queue)) :
    merger'.allTrackingId = merger.allTrackingId := by
  rw [filterTouchKey] at hfilter
  split_ifs at hfilter
  · rw [(Prod.mk.inj hfilter).1]
  · rw [(Prod.mk.inj hfilter).1]

/-- An event that is merged uses up the id of its contact, and the ids do not
run out. -/
theorem allTrackingId_mergeEvent
    (hmerge : merger.mergeEvent useAdditionalSlots event =
      some (merger', queue)) :
    merger'.allTrackingId =
        merger.allTrackingId + event.contactId.toList.length ∧
      (merger.allTrackingId < 2 ^ 31 → merger'.allTrackingId < 2 ^ 31) := by
  have hsame : event.contactId = none →
      merger'.allTrackingId = merger.allTrackingId →
      merger'.allTrackingId =
          merger.allTrackingId + event.contactId.toList.length ∧
        (merger.allTrackingId < 2 ^ 31 → merger'.allTrackingId < 2 ^ 31) := by
    intro hnone hid
    rw [hnone, hid]
    exact ⟨(add_zero _).symm, id⟩
  rcases event with ⟨_ | _ | _ | _, value⟩ | ⟨_ | _ | _, value⟩ | _ | _
  · obtain ⟨srcSlot, slot, hchoose⟩ := selectSlot_eq_some hmerge
    have hid := allTrackingId_choose hchoose
    exact hsame rfl hid
  · rw [mergeEvent, assignTrackingId] at hmerge
    split_ifs at hmerge with hnone
    · cases hmerge
      exact hsame (if_pos hnone) rfl
    · obtain ⟨nextId, hnext, hresult⟩ := Option.map_eq_some_iff.mp hmerge
      cases hresult
      rw [increment] at hnext
      split_ifs at hnext with hroom
      cases hnext
      rw [InputEvent.contactId, if_neg hnone]
      exact ⟨rfl, fun _ => hroom⟩
  · cases hmerge
    exact hsame rfl rfl
  · cases hmerge
    exact hsame rfl rfl
  · exact hsame rfl (allTrackingId_filterTouchKey (Option.some.inj hmerge))
  · exact hsame rfl (allTrackingId_filterTouchKey (Option.some.inj hmerge))
  · cases hmerge
    exact hsame rfl rfl
  · cases hmerge
    exact hsame rfl rfl
  · cases hmerge
    exact hsame rfl rfl

variable {evs : List InputEvent}

theorem mergeEvents_cons
    (hmerge : merger.mergeEvents useAdditionalSlots (event :: evs) =
      some (merger', queue)) :
    ∃ first head rest,
      merger.mergeEvent useAdditionalSlots event = some (first, head) ∧
      first.mergeEvents useAdditionalSlots evs = some (merger', rest) ∧
      queue = head ++ rest := by
  simp only [mergeEvents, bind, pure, Option.bind_eq_some_iff] at hmerge
  obtain ⟨⟨first, head⟩, hfirst, ⟨last, rest⟩, hrest, hlast⟩ := hmerge
  cases hlast
  exact ⟨first, head, rest, hfirst, hrest, rfl⟩

theorem length_contactIds_cons (event : InputEvent) (evs : List InputEvent) :
    (contactIds (event :: evs)).length =
      event.contactId.toList.length + (contactIds evs).length := by
  rw [contactIds, List.filterMap_cons]
  cases event.contactId with
  | none => exact (Nat.zero_add _).symm
  | some id => exact Nat.add_comm _ _

theorem allTrackingId_mergeEvents
    (hmerge : merger.mergeEvents useAdditionalSlots evs =
      some (merger', queue)) :
    merger'.allTrackingId =
        merger.allTrackingId + (contactIds evs).length ∧
      (merger.allTrackingId < 2 ^ 31 → merger'.allTrackingId < 2 ^ 31) := by
  induction evs generalizing merger queue with
  | nil =>
    cases hmerge
    exact ⟨(add_zero _).symm, id⟩
  | cons event evs ih =>
    obtain ⟨first, head, rest, hfirst, hrest, rfl⟩ := mergeEvents_cons hmerge
    obtain ⟨hid, hbound⟩ := allTrackingId_mergeEvent hfirst
    obtain ⟨hid', hbound'⟩ := ih hrest
    rw [length_contactIds_cons, Nat.cast_add, ← add_assoc, ← hid]
    exact ⟨hid', fun hlt => hbound' (hbound hlt)⟩

theorem emit_eq_some
    (hemit : merger.emit evs useAdditionalSlots = some (merger', queue)) :
    ∃ rest, (merger.resetSlot evs useAdditionalSlots).1.mergeEvents
        useAdditionalSlots evs = some (merger', rest) ∧
      queue = (merger.resetSlot evs useAdditionalSlots).2 ++ rest := by
  simp only [emit, bind, pure, Option.bind_eq_some_iff] at hemit
  obtain ⟨⟨last, rest⟩, hrest, hlast⟩ := hemit
  cases hlast
  exact ⟨rest, hrest, rfl⟩

theorem allTrackingId_emit
    (hemit : merger.emit evs useAdditionalSlots = some (merger', queue)) :
    merger'.allTrackingId =
        merger.allTrackingId + (contactIds evs).length ∧
      (merger.allTrackingId < 2 ^ 31 → merger'.allTrackingId < 2 ^ 31) := by
  have hreset : (merger.resetSlot evs useAdditionalSlots).1.allTrackingId =
      merger.allTrackingId := by
    rw [resetSlot]
    split_ifs <;> rfl
  obtain ⟨rest, hrest, -⟩ := emit_eq_some hemit
  have hids := allTrackingId_mergeEvents hrest
  rwa [hreset] at hids

/-! ## The part of a producer -/

section Linked

variable {producer : DeviceState}

/-- The virtual slots of a producer show what the producer shows. -/
structure Linked (useAdditionalSlots : Bool) (merger : TouchMerger)
    (virtual producer : DeviceState) : Prop where
  tracks : Tracks merger virtual
  fits : merger.srcSlotCount + merger.addSlotCount ≤ 2 ^ 31
  shown : ∀ slot : Nat, slot < merger.slotCount useAdditionalSlots →
    virtual.shown (merger.offset useAdditionalSlots + slot) =
      producer.shown slot
  inside : 0 ≤ producer.currentSlot ∧
    producer.currentSlot < merger.slotCount useAdditionalSlots
  source : useAdditionalSlots = false →
    producer.currentSlot = merger.srcCurrentSlot

/-- The virtual device has the slot of the producer selected. -/
def Aligned (useAdditionalSlots : Bool) (merger : TouchMerger)
    (virtual producer : DeviceState) : Prop :=
  virtual.currentSlot =
    merger.offset useAdditionalSlots + producer.currentSlot

/-- What a queue leaves alone, and the contacts it begins. -/
structure Progress (useAdditionalSlots : Bool) (merger merger' : TouchMerger)
    (virtual : DeviceState) (queue : List InputEvent) (contacts : Nat) :
    Prop where
  srcSlotCount : merger'.srcSlotCount = merger.srcSlotCount
  addSlotCount : merger'.addSlotCount = merger.addSlotCount
  srcSelected : useAdditionalSlots = true →
    merger'.srcCurrentSlot = merger.srcCurrentSlot
  others : ∀ slot : Int,
    ¬ (merger.offset useAdditionalSlots ≤ slot ∧
      slot < merger.offset useAdditionalSlots +
        merger.slotCount useAdditionalSlots) →
    (virtual.decode queue).shown slot = virtual.shown slot
  ids : contactIds queue =
    (List.range contacts).map fun index : Nat => merger.allTrackingId + index
  nextId : merger'.allTrackingId = merger.allTrackingId + contacts

theorem Progress.refl (useAdditionalSlots : Bool) (merger : TouchMerger)
    (virtual : DeviceState) :
    Progress useAdditionalSlots merger merger virtual [] 0 :=
  ⟨rfl, rfl, fun _ => rfl, fun _ _ => rfl, rfl, (add_zero _).symm⟩

variable {contacts : Nat}

theorem Progress.slotCount_eq
    (hprogress : Progress useAdditionalSlots merger merger' virtual queue
      contacts) :
    merger'.slotCount useAdditionalSlots =
        merger.slotCount useAdditionalSlots ∧
      merger'.offset useAdditionalSlots = merger.offset useAdditionalSlots :=
  slotCount_eq_of_counts hprogress.srcSlotCount hprogress.addSlotCount

theorem Progress.trans {merger'' : TouchMerger} {queue' : List InputEvent}
    {contacts' : Nat}
    (hfirst : Progress useAdditionalSlots merger merger' virtual queue contacts)
    (hsecond : Progress useAdditionalSlots merger' merger''
      (virtual.decode queue) queue' contacts') :
    Progress useAdditionalSlots merger merger'' virtual (queue ++ queue')
      (contacts + contacts') := by
  obtain ⟨hcount, hoffset⟩ := hfirst.slotCount_eq
  refine ⟨hsecond.srcSlotCount.trans hfirst.srcSlotCount,
    hsecond.addSlotCount.trans hfirst.addSlotCount, ?_, ?_, ?_, ?_⟩
  · intro hadditional
    exact (hsecond.srcSelected hadditional).trans
      (hfirst.srcSelected hadditional)
  · intro slot hslot
    have hother := hsecond.others slot
    rw [hoffset, hcount] at hother
    rw [DeviceState.decode_append, hother hslot, hfirst.others slot hslot]
  · calc contactIds (queue ++ queue')
        = contactIds queue ++ contactIds queue' := List.filterMap_append
      _ = (List.range (contacts + contacts')).map fun index : Nat =>
            merger.allTrackingId + index := by
          rw [hfirst.ids, hsecond.ids, hfirst.nextId, List.range_add,
            List.map_append, List.map_map]
          simp only [Function.comp_def, Nat.cast_add, add_assoc]
  · rw [hsecond.nextId, hfirst.nextId, Nat.cast_add, add_assoc]

/-- An event without effect on slots. -/
theorem effect_eq_self (hquiet : event.isMtSlot = true ∨
    event.isAbsolute = false) (view : Bool × (MtAxis → Option Int)) :
    event.effect view = view := by
  rcases event with ⟨_ | _ | _ | _, _⟩ | _ | _ | _
  all_goals first | rfl | simp [InputEvent.isMtSlot, InputEvent.isAbsolute] at hquiet

theorem Merges.slotCount_eq
    (hmerges : Merges useAdditionalSlots event virtual merger merger' queue) :
    merger'.slotCount useAdditionalSlots =
        merger.slotCount useAdditionalSlots ∧
      merger'.offset useAdditionalSlots = merger.offset useAdditionalSlots :=
  slotCount_eq_of_counts hmerges.srcSlotCount hmerges.addSlotCount

/-- An event with an effect finds the slot of the producer selected. -/
theorem Linked.merges
    (hlinked : Linked useAdditionalSlots merger virtual producer)
    (hmerges : Merges useAdditionalSlots event virtual merger merger' queue)
    (hbelow : event.SelectsBelow (merger.slotCount useAdditionalSlots))
    (hready : Aligned useAdditionalSlots merger virtual producer ∨
      event.isMtSlot = true ∨ event.isAbsolute = false) :
    Linked useAdditionalSlots merger' (virtual.decode queue)
      (producer.apply event) := by
  obtain ⟨hcount, hoffset⟩ := hmerges.slotCount_eq
  refine ⟨hmerges.tracks, ?_, ?_, ?_, ?_⟩
  · rw [hmerges.srcSlotCount, hmerges.addSlotCount]
    exact hlinked.fits
  · intro slot hslot
    rw [hcount] at hslot
    rw [hoffset, hmerges.shown, producer.shown_apply, hlinked.shown slot hslot]
    rcases hready with haligned | hquiet
    · have hsame : ((merger.offset useAdditionalSlots : Int) + slot =
          virtual.currentSlot) ↔ (slot : Int) = producer.currentSlot := by
        rw [haligned, add_right_inj]
      simp only [hsame]
    · rw [effect_eq_self hquiet, ite_self, ite_self]
  · rw [hcount, producer.currentSlot_apply]
    exact hbelow.select hlinked.inside
  · intro hsource
    rw [producer.currentSlot_apply, hmerges.srcSelected, hsource,
      hlinked.source hsource]
    rfl

theorem Aligned.merges
    (hmerges : Merges useAdditionalSlots event virtual merger merger' queue)
    (hready : Aligned useAdditionalSlots merger virtual producer ∨
      event.isMtSlot = true) :
    Aligned useAdditionalSlots merger' (virtual.decode queue)
      (producer.apply event) := by
  rw [Aligned, hmerges.slotCount_eq.2, hmerges.selected,
    producer.currentSlot_apply]
  by_cases hslot : event.isMtSlot = true
  · rw [if_pos hslot]
    rcases event with ⟨_ | _ | _ | _, _⟩ | _ | _ | _
    · rfl
    all_goals exact nomatch hslot
  · rw [if_neg hslot,
      InputEvent.select_of_not_mtSlot (Bool.eq_false_iff.mpr hslot)]
    exact hready.resolve_right hslot

theorem Merges.progress
    (hlinked : Linked useAdditionalSlots merger virtual producer)
    (hmerges : Merges useAdditionalSlots event virtual merger merger' queue)
    (hready : Aligned useAdditionalSlots merger virtual producer ∨
      event.isMtSlot = true ∨ event.isAbsolute = false) :
    Progress useAdditionalSlots merger merger' virtual queue
      event.contactId.toList.length := by
  refine ⟨hmerges.srcSlotCount, hmerges.addSlotCount, ?_, ?_, ?_,
    hmerges.nextId⟩
  · rintro rfl
    exact Nat.cast_inj.mp hmerges.srcSelected
  · intro slot hslot
    rw [hmerges.shown]
    split_ifs with hcurrent
    · rcases hready with haligned | hquiet
      · rw [Aligned] at haligned
        have hinside := hlinked.inside
        omega
      · exact effect_eq_self hquiet _
    · rfl
  · rw [hmerges.ids]
    cases event.contactId with
    | none => rfl
    | some id => simp

/-- The first absolute event, if there is one, selects a slot. -/
def Leads (evs : List InputEvent) : Prop :=
  ∀ event, evs.find? InputEvent.isAbsolute = some event →
    event.isMtSlot = true

variable {evs : List InputEvent}

theorem Leads.head (hleads : Leads (event :: evs)) :
    event.isMtSlot = true ∨ event.isAbsolute = false ∧ Leads evs := by
  cases habsolute : event.isAbsolute with
  | true => exact Or.inl (hleads event (by simp [habsolute]))
  | false =>
    refine Or.inr ⟨rfl, fun other hother => hleads other ?_⟩
    rw [List.find?_cons_of_neg (by simp [habsolute]), hother]

/-- The events of a packet are merged once the slot of the producer is
selected, which the packet may do itself. -/
theorem exists_mergeEvents
    (hlinked : Linked useAdditionalSlots merger virtual producer)
    (hready : Aligned useAdditionalSlots merger virtual producer ∨ Leads evs)
    (hbelow : ∀ event ∈ evs,
      event.SelectsBelow (merger.slotCount useAdditionalSlots))
    (hnextId : 0 ≤ merger.allTrackingId)
    (hroom : merger.allTrackingId + (contactIds evs).length < 2 ^ 31) :
    ∃ merger' queue,
      merger.mergeEvents useAdditionalSlots evs = some (merger', queue) ∧
      Linked useAdditionalSlots merger' (virtual.decode queue)
        (producer.decode evs) ∧
      Progress useAdditionalSlots merger merger' virtual queue
        (contactIds evs).length := by
  induction evs generalizing merger virtual producer with
  | nil => exact ⟨merger, [], rfl, hlinked, Progress.refl _ _ _⟩
  | cons event evs ih =>
    rw [length_contactIds_cons] at hroom ⊢
    have hevent : Aligned useAdditionalSlots merger virtual producer ∨
        event.isMtSlot = true ∨ event.isAbsolute = false ∧ Leads evs :=
      hready.imp_right Leads.head
    have hready' : Aligned useAdditionalSlots merger virtual producer ∨
        event.isMtSlot = true ∨ event.isAbsolute = false :=
      hevent.imp_right (Or.imp_right And.left)
    obtain ⟨first, queue, hfirst, hmerges⟩ := exists_mergeEvent hlinked.tracks
      hlinked.fits (hbelow event List.mem_cons_self) hnextId (by omega)
    have hprogress := hmerges.progress hlinked hready'
    have hlinked' := hlinked.merges hmerges
      (hbelow event List.mem_cons_self) hready'
    have haligned : Aligned useAdditionalSlots first (virtual.decode queue)
        (producer.apply event) ∨ Leads evs := by
      rcases hevent with haligned | hslot | ⟨-, hleads⟩
      · exact Or.inl (Aligned.merges hmerges (Or.inl haligned))
      · exact Or.inl (Aligned.merges hmerges (Or.inr hslot))
      · exact Or.inr hleads
    have hbelow' : ∀ other ∈ evs,
        other.SelectsBelow (first.slotCount useAdditionalSlots) := by
      rw [hmerges.slotCount_eq.1]
      exact fun other hother => hbelow other (List.mem_cons_of_mem event hother)
    have hnextId' := hmerges.nextId
    obtain ⟨last, rest, hrest, hlast, hprogress'⟩ :=
      ih hlinked' haligned hbelow' (by omega) (by omega)
    refine ⟨last, queue ++ rest, ?_, ?_, hprogress.trans hprogress'⟩
    · simp only [mergeEvents, hfirst, hrest, bind, pure, Option.bind_some]
    · rw [DeviceState.decode_append]
      exact hlast

/-- The slot of the source is selected again when the packet needs it. -/
theorem resetSlot_cases (evs : List InputEvent)
    (hlinked : Linked useAdditionalSlots merger virtual producer)
    (hleads : useAdditionalSlots = true → Leads evs) :
    ∃ merger' queue, merger.resetSlot evs useAdditionalSlots =
        (merger', queue) ∧
      Linked useAdditionalSlots merger' (virtual.decode queue) producer ∧
      (Aligned useAdditionalSlots merger' (virtual.decode queue) producer ∨
        Leads evs) ∧
      Progress useAdditionalSlots merger merger' virtual queue 0 := by
  rw [resetSlot]
  split_ifs with hreset
  · simp only [Bool.and_eq_true, Bool.not_eq_true', decide_eq_true_eq] at hreset
    obtain ⟨⟨rfl, -⟩, -⟩ := hreset
    have hinside := hlinked.inside
    have hfits := hlinked.fits
    have hsource := hlinked.source rfl
    rw [slotCount, if_neg Bool.false_ne_true] at hinside
    have hint : int32 merger.srcCurrentSlot = merger.srcCurrentSlot :=
      int32_eq_self (by omega) (by omega)
    rw [hint]
    refine ⟨_, _, rfl, ?_, Or.inl ?_, ?_⟩
    · exact ⟨⟨rfl, hlinked.tracks.length_eq, hlinked.tracks.states⟩,
        hlinked.fits, hlinked.shown, hlinked.inside, hlinked.source⟩
    · calc (merger.srcCurrentSlot : Int) = producer.currentSlot := hsource.symm
        _ = (0 : Nat) + producer.currentSlot := (zero_add _).symm
    · exact ⟨rfl, rfl, fun _ => rfl, fun _ _ => rfl, rfl, (add_zero _).symm⟩
  · refine ⟨_, _, rfl, hlinked, ?_, Progress.refl _ _ _⟩
    cases useAdditionalSlots with
    | true => exact Or.inr (hleads rfl)
    | false =>
      by_cases hsame : merger.allCurrentSlot = merger.srcCurrentSlot
      · refine Or.inl ?_
        calc virtual.currentSlot = merger.srcCurrentSlot := by
              rw [hlinked.tracks.selected, hsame]
          _ = producer.currentSlot := (hlinked.source rfl).symm
          _ = (0 : Nat) + producer.currentSlot := (zero_add _).symm
      · refine Or.inr fun event hfind => ?_
        simpa [hsame, hfind] using hreset

/-- A packet is merged: afterwards the virtual slots of the producer show what
it shows, and the others what they showed. -/
theorem exists_emit
    (hlinked : Linked useAdditionalSlots merger virtual producer)
    (hleads : useAdditionalSlots = true → Leads evs) (hbelow : ∀ event ∈ evs,
      event.SelectsBelow (merger.slotCount useAdditionalSlots))
    (hnextId : 0 ≤ merger.allTrackingId)
    (hroom : merger.allTrackingId + (contactIds evs).length < 2 ^ 31) :
    ∃ merger' queue,
      merger.emit evs useAdditionalSlots = some (merger', queue) ∧
      Linked useAdditionalSlots merger' (virtual.decode queue)
        (producer.decode evs) ∧
      Progress useAdditionalSlots merger merger' virtual queue
        (contactIds evs).length := by
  obtain ⟨first, reset, hreset, hlinked', hready, hprogress⟩ :=
    resetSlot_cases evs hlinked hleads
  rw [← hprogress.slotCount_eq.1] at hbelow
  have hnextId' := hprogress.nextId
  obtain ⟨last, rest, hrest, hlast, hprogress'⟩ :=
    exists_mergeEvents hlinked' hready hbelow (by omega) (by omega)
  have htotal := hprogress.trans hprogress'
  rw [Nat.zero_add] at htotal
  refine ⟨last, reset ++ rest, ?_, ?_, htotal⟩
  · simp only [emit, hreset, hrest, bind, pure, Option.bind_some]
  · rw [DeviceState.decode_append]
    exact hlast

/-- A packet of the emulator leaves the source as it was. -/
theorem Linked.of_additional (hlinked : Linked false merger virtual producer)
    (htracks : Tracks merger' (virtual.decode queue))
    (hprogress : Progress true merger merger' virtual queue contacts) :
    Linked false merger' (virtual.decode queue) producer := by
  have hcount : merger'.slotCount false = merger.slotCount false :=
    hprogress.srcSlotCount
  refine ⟨htracks, ?_, fun slot hslot => ?_, ?_, fun _ => ?_⟩
  · rw [hprogress.srcSlotCount, hprogress.addSlotCount]
    exact hlinked.fits
  · rw [hcount] at hslot
    have hbelow : slot < merger.srcSlotCount := hslot
    calc (virtual.decode queue).shown (merger'.offset false + slot)
        = virtual.shown (merger.offset false + slot) := by
          apply hprogress.others
          simp only [offset, Bool.false_eq_true, if_false, if_true]
          omega
      _ = producer.shown slot := hlinked.shown slot hslot
  · rw [hcount]
    exact hlinked.inside
  · rw [hprogress.srcSelected rfl]
    exact hlinked.source rfl

end Linked

end TouchMerger

end HardwareInterfaces.TouchInjector

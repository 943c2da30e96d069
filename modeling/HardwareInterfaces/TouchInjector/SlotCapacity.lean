import HardwareInterfaces.TouchInjector.SlotRanges

/-!
# The capacity of the emulator

The emulator has a fixed number of slots, but a registration is not checked
against it: the number of slots that a client asks for is added to the number
handed out.  Beyond the capacity a touch finds no slot, and the check of the
emulator lets the first such slot pass.
-/

namespace HardwareInterfaces.TouchInjector

open Transition

/-! ## The check of the emulator -/

namespace TouchEmulator

/-- A touch returns, and reports an invalid slot if there is no such slot. -/
def ReportsInvalid (emulator : TouchEmulator) (emit : Emit) (slot : Nat)
    (pos : Option Position) : Prop :=
  ∃ outcome, emulator.touch emit slot pos = some outcome ∧
    (outcome.error = some .invalidSlotId ↔ emulator.slotStates.length ≤ slot)

theorem exists_touch_of_lt {emulator : TouchEmulator} {slot : Nat}
    (hslot : slot < emulator.slotStates.length) (emit : Emit)
    (pos : Option Position) :
    ∃ outcome, emulator.touch emit slot pos = some outcome ∧
      outcome.error ≠ some .invalidSlotId := by
  rw [touch, if_neg (not_lt.mpr hslot.le), List.getElem?_eq_getElem hslot]
  simp only
  split_ifs <;> exact ⟨_, rfl, by rintro ⟨⟩⟩

theorem reportsInvalid_iff (emulator : TouchEmulator) (emit : Emit) (slot : Nat)
    (pos : Option Position) :
    emulator.ReportsInvalid emit slot pos ↔
      slot ≠ emulator.slotStates.length := by
  rcases lt_trichotomy slot emulator.slotStates.length with hlt | heq | hgt
  · obtain ⟨outcome, htouch, herror⟩ := exists_touch_of_lt hlt emit pos
    exact iff_of_true
      ⟨outcome, htouch, iff_of_false herror (not_le.mpr hlt)⟩ hlt.ne
  · refine iff_of_false ?_ (not_not_intro heq)
    rintro ⟨outcome, htouch, -⟩
    rw [touch, if_neg (not_lt.mpr heq.le),
      List.getElem?_eq_none heq.ge] at htouch
    cases htouch
  · refine iff_of_true ⟨_, if_pos hgt, iff_of_true rfl hgt.le⟩ hgt.ne'

end TouchEmulator

/-- The reply of a client is a 32-bit integer. -/
def Call.ReplyInt32 {Client : Type} : Call Client → Prop
  | .registerClient _ (some reply) => -2 ^ 31 ≤ reply ∧ reply < 2 ^ 31
  | _ => True

namespace TouchInjectorService

variable {Client : Type} [LinearOrder Client] {emit : Emit}
  {service next : TouchInjectorService Client} {client : Client}
  {addSlotCount : Nat}

/-! ## Slots within the capacity -/

/-- All slots of the clients are slots of the emulator. -/
def RangesFit (addSlotCount : Nat) (service : TouchInjectorService Client) :
    Prop :=
  ∀ client range, service.slotRangeMap.lookup client = some range →
    range.stop ≤ addSlotCount

/-- A touch of a slot in the range of the client reaches a slot of the
emulator, whatever the position. -/
def TouchFits (addSlotCount : Nat) (service : TouchInjectorService Client)
    (emit : Emit) (client : Client) (slotId : Int) : Prop :=
  ∀ range, service.slotRangeMap.lookup client = some range →
    inRange range slotId = true →
      range.start + asUsize slotId < addSlotCount ∧
        ∀ pos, ∃ outcome,
          service.touchEmulator.touch emit (range.start + asUsize slotId) pos =
            some outcome ∧ outcome.error ≠ some .invalidSlotId

/-- Registrations return and leave the slots of all clients within the
capacity, and touches stay within it. -/
def Contained (addSlotCount : Nat) (service : TouchInjectorService Client)
    (label : Emit × Call Client) : Prop :=
  match label.2 with
  | .registerClient client reply =>
    ∃ status next,
      service.registerClient label.1 client reply = some (status, next) ∧
        next.RangesFit addSlotCount
  | .unregisterClient client =>
    ∃ status next,
      service.unregisterClient label.1 client = some (status, next) ∧
        next.RangesFit addSlotCount
  | .beginTouch client slotId _ _ =>
    service.TouchFits addSlotCount label.1 client slotId
  | .endTouch client slotId =>
    service.TouchFits addSlotCount label.1 client slotId

/-- A new client asks for slots that are left. -/
def AsksForLeft (addSlotCount : Nat) (service : TouchInjectorService Client)
    (label : Emit × Call Client) : Prop :=
  match label.2 with
  | .registerClient client (some reply) =>
    service.slotRangeMap.lookup client = none →
      0 ≤ reply ∧ service.slotCount + reply ≤ addSlotCount
  | _ => True

instance (service : TouchInjectorService Client) :
    DecidablePred (service.AsksForLeft addSlotCount)
  | (_, .registerClient _ (some _)) => inferInstanceAs (Decidable (_ → _))
  | (_, .registerClient _ none) => isTrue trivial
  | (_, .unregisterClient _) => isTrue trivial
  | (_, .beginTouch _ _ _ _) => isTrue trivial
  | (_, .endTouch _ _) => isTrue trivial

section

variable (hkept : Kept addSlotCount service)
include hkept

theorem Kept.stop_le {range : SlotRange}
    (hrange : service.slotRangeMap.lookup client = some range) :
    range.stop ≤ service.slotCount := by
  have hnonempty := hkept.laid.nonempty client range hrange
  have hlast : range.Contains (range.stop - 1) := ⟨by omega, by omega⟩
  have hcovered :=
    (hkept.laid.covered (range.stop - 1)).mp ⟨client, range, hrange, hlast⟩
  omega

theorem Kept.rangesFit : service.RangesFit addSlotCount :=
  fun _ _ hrange => (hkept.stop_le hrange).trans hkept.fits

theorem Kept.touchFits (emit : Emit) (client : Client) (slotId : Int) :
    service.TouchFits addSlotCount emit client slotId := by
  intro range hrange hslotId
  have hlt : asUsize slotId < range.len :=
    not_le.mp fun hle => of_decide_eq_true hslotId (Or.inr hle)
  have hslot : range.start + asUsize slotId < addSlotCount :=
    (contains_of_lt_len hlt).2.trans_le (hkept.rangesFit client range hrange)
  refine ⟨hslot, fun pos => ?_⟩
  exact TouchEmulator.exists_touch_of_lt (hkept.length_eq ▸ hslot) emit pos

theorem Kept.exists_unregisterClient (emit : Emit) (client : Client) :
    ∃ status next,
      service.unregisterClient emit client = some (status, next) ∧
        Kept addSlotCount next := by
  cases hrange : service.slotRangeMap.lookup client with
  | none =>
    refine ⟨.ok, service, ?_, hkept⟩
    rw [TouchInjectorService.unregisterClient,
      isRegistered_eq_false_iff.mpr hrange]
    rfl
  | some range =>
    obtain ⟨next, henable, hkept'⟩ :=
      (hkept.lifted_leave hrange).exists_enableAllTouches emit
    have hle : range.len ≤ service.slotCount :=
      (Nat.sub_le _ _).trans (hkept.stop_le hrange)
    refine ⟨.ok, next, ?_, hkept'⟩
    rw [unregisterClient_eq emit hrange, checkedSub, if_pos hle, henable]
    rfl

/-- A new client with slots is entered when they are left. -/
theorem Kept.exists_registerClient (hadd : addSlotCount < 2 ^ 63)
    (emit : Emit) {value : Int}
    (habsent : service.slotRangeMap.lookup client = none)
    (hint32 : value < 2 ^ 31) (hpos : 0 < value)
    (hleft : service.slotCount + value ≤ addSlotCount) :
    ∃ next, service.registerClient emit client (some value) =
        some (.ok, next) ∧ Kept addSlotCount next := by
  have hcount : (asUsize value : Int) = value := by
    rw [asUsize, Int.emod_eq_of_lt hpos.le (by omega),
      Int.toNat_of_nonneg hpos.le]
  have hpositions : emptyPositions (asUsize value) =
      some (List.replicate (asUsize value) none) := if_pos (by omega)
  have hsum : checkedAdd service.slotCount (asUsize value) =
      some (service.slotCount + asUsize value) := by
    rw [checkedAdd, usizeBound, if_pos (by omega)]
  obtain ⟨next, henable, hkept'⟩ :=
    (hkept.lifted_enter habsent (by omega) hpositions
      (by omega)).exists_enableAllTouches emit
  refine ⟨next, ?_, hkept'⟩
  rw [registerClient_eq emit habsent (by omega), hsum, hpositions]
  simp only [Option.bind_some, henable]

end

section

variable (hkept : Kept addSlotCount service) (hadd : addSlotCount < 2 ^ 63)
include hkept hadd

theorem Kept.exists_registerClient_of_asksForLeft {reply : Option Int}
    (hreply : (Call.registerClient client reply).ReplyInt32)
    (hleft : service.AsksForLeft addSlotCount
      (emit, .registerClient client reply)) :
    ∃ status next,
      service.registerClient emit client reply = some (status, next) ∧
        Kept addSlotCount next := by
  by_cases hrefused : (service.slotRangeMap.lookup client).isSome ∨
      ∀ value ∈ reply, asUsize value = 0
  · obtain ⟨status, hsame⟩ := registerClient_of_refused emit hrefused
    exact ⟨status, service, hsame, hkept⟩
  · simp only [not_or, not_forall] at hrefused
    obtain ⟨hunknown, value, rfl, hcount⟩ := hrefused
    have habsent := Option.not_isSome_iff_eq_none.mp hunknown
    obtain ⟨hnonneg, hfits⟩ := hleft habsent
    have hpos : 0 < value := by
      refine hnonneg.lt_of_ne ?_
      rintro rfl
      exact hcount rfl
    obtain ⟨next, hcall, hkept'⟩ := hkept.exists_registerClient hadd emit
      habsent hreply.2 hpos hfits
    exact ⟨.ok, next, hcall, hkept'⟩

/-- A new client that asks for more is entered all the same, if the call
returns. -/
theorem Kept.asksForLeft_of_rangesFit {value : Int} {status : Status}
    (habsent : service.slotRangeMap.lookup client = none)
    (hreply : -2 ^ 31 ≤ value ∧ value < 2 ^ 31)
    (hcall : service.registerClient emit client (some value) =
      some (status, next))
    (hfit : next.RangesFit addSlotCount) :
    0 ≤ value ∧ service.slotCount + value ≤ addSlotCount := by
  have hfits := hkept.fits
  by_cases hcount : asUsize value = 0
  · rw [asUsize] at hcount
    omega
  · rw [registerClient_eq emit habsent hcount] at hcall
    simp only [Option.bind_eq_some_iff] at hcall
    obtain ⟨-, -, positions, -, last, henable, hlast⟩ := hcall
    cases hlast
    have hrange : next.slotRangeMap.lookup client =
        some ⟨service.slotCount, service.slotCount + asUsize value⟩ := by
      rw [(enableAllTouches_frame henable).2.1, enter, OrderedMap.lookup_insert,
        Function.update_self]
    have hstop := hfit client _ hrange
    simp only [asUsize] at hstop
    omega

theorem Kept.contained_iff {label : Emit × Call Client}
    (hreply : label.2.ReplyInt32) :
    service.Contained addSlotCount label ↔
      service.AsksForLeft addSlotCount label := by
  obtain ⟨emit, call⟩ := label
  cases call with
  | registerClient client reply =>
    constructor
    · rintro ⟨status, next, hcall, hfit⟩
      cases reply with
      | none => trivial
      | some value =>
        intro habsent
        exact hkept.asksForLeft_of_rangesFit hadd habsent hreply hcall hfit
    · intro hleft
      obtain ⟨status, next, hcall, hkept'⟩ :=
        hkept.exists_registerClient_of_asksForLeft hadd hreply hleft
      exact ⟨status, next, hcall, hkept'.rangesFit⟩
  | unregisterClient client =>
    obtain ⟨status, next, hcall, hkept'⟩ :=
      hkept.exists_unregisterClient emit client
    exact iff_of_true ⟨status, next, hcall, hkept'.rangesFit⟩ trivial
  | beginTouch client slotId x y =>
    exact iff_of_true (hkept.touchFits emit client slotId) trivial
  | endTouch client slotId =>
    exact iff_of_true (hkept.touchFits emit client slotId) trivial

theorem Kept.step_of_asksForLeft {label : Emit × Call Client}
    (hreply : label.2.ReplyInt32)
    (hleft : service.AsksForLeft addSlotCount label)
    (hstep : service.step label = some next) : Kept addSlotCount next := by
  obtain ⟨status, hcall⟩ := step_eq_some hstep
  obtain ⟨emit, call⟩ := label
  cases call with
  | registerClient =>
    obtain ⟨status', next', hcall', hkept'⟩ :=
      hkept.exists_registerClient_of_asksForLeft hadd hreply hleft
    cases hcall'.symm.trans hcall
    exact hkept'
  | unregisterClient => exact hkept.unregisterClient hcall
  | beginTouch => exact hkept.beginTouch hcall
  | endTouch => exact hkept.endTouch hcall

end

/-- All calls return and stay within the slots of the emulator exactly when
each new client asks for slots that are left.  The emulator reports exactly
the invalid slots but for the first one, at which it panics. -/
theorem slots_contained_iff_asks_for_left (addSlotCount : Nat)
    (hadd : addSlotCount < 2 ^ 63) (labels : List (Emit × Call Client))
    (hreplies : ∀ label ∈ labels, label.2.ReplyInt32) :
    (RunObeys step (Contained addSlotCount)
        (new addSlotCount : TouchInjectorService Client) labels ↔
      RunObeys step (AsksForLeft addSlotCount)
        (new addSlotCount : TouchInjectorService Client) labels) ∧
    ∀ (emulator : TouchEmulator) (emit : Emit) (slot : Nat)
      (pos : Option Position),
      emulator.ReportsInvalid emit slot pos ↔
        slot ≠ emulator.slotStates.length := by
  refine ⟨?_, TouchEmulator.reportsInvalid_iff⟩
  refine runObeys_congr_of_invariant (fun service label hlabel hkept =>
    Kept.contained_iff hkept hadd (hreplies label hlabel)) ?_
    (kept_new addSlotCount)
  intro service label hlabel next hkept hleft hstep
  exact hkept.step_of_asksForLeft hadd (hreplies label hlabel) hleft hstep

/-- Two clients share the ten slots, and the second touches the last one. -/
def sharingCalls : List (Emit × Call Nat) :=
  [(fun _ => true, .registerClient 1 (some 7)),
    (fun _ => false, .registerClient 2 (some 3)),
    (fun _ => true, .beginTouch 2 2 10 20)]

theorem slots_contained_when_shared :
    RunObeys step (Contained 10) (new 10) sharingCalls := by
  have hreplies : ∀ label ∈ sharingCalls, label.2.ReplyInt32 := by
    simp [sharingCalls, Call.ReplyInt32]
  exact (slots_contained_iff_asks_for_left 10 (by decide) sharingCalls
    hreplies).1.mpr (by decide +kernel)

/-- A client is granted eleven slots out of ten, and the service panics when it
touches the last of them; a negative number panics at once.  The emulator has
no slot ten and does not say so. -/
theorem slots_not_always_contained :
    ¬ RunObeys step (Contained 10) (new 10)
        [((fun _ => true : Emit), .registerClient 1 (some 11))] ∧
      (run step (new 10) [((fun _ => true : Emit),
        .registerClient 1 (some 11))]).map (fun service =>
          service.slotRangeMap.lookup 1) = some (some ⟨0, 11⟩) ∧
      (run step (new 10) [((fun _ => true : Emit), .registerClient 1 (some 11)),
        (fun _ => true, .beginTouch 1 10 0 0)]).isNone ∧
      (run step (new 10) [((fun _ => true : Emit),
        .registerClient 1 (some (-1)))]).isNone ∧
      ¬ (TouchEmulator.new 10).ReportsInvalid (fun _ => true) 10 none := by
  refine ⟨?_, by decide +kernel, by decide +kernel, by decide +kernel, ?_⟩
  · rintro ⟨hcontained, -⟩
    have hreply : (Call.registerClient 1 (some 11)).ReplyInt32 :=
      ⟨by decide, by decide⟩
    have hleft := ((kept_new 10).contained_iff (by decide) hreply).mp hcontained
    exact absurd (hleft rfl).2 (by decide)
  · rw [TouchEmulator.reportsInvalid_iff]
    decide

end TouchInjectorService

end HardwareInterfaces.TouchInjector

import HardwareInterfaces.Core.Transition
import HardwareInterfaces.TouchInjector.Service

/-!
# Slot ranges and pressed positions

When the calls of the clients run one after the other, the ranges of the
clients tile the slots handed out so far, every client has a pressed entry for
each of its slots, and the emulator touches exactly the slots of the pressed
entries.
-/

namespace HardwareInterfaces.TouchInjector

open Transition

def SlotRange.Contains (range : SlotRange) (slot : Nat) : Prop :=
  range.start ≤ slot ∧ slot < range.stop

/-! ## Ranges that tile the slots -/

section Laid

variable {Client : Type} [LinearOrder Client]
  {ranges : OrderedMap Client SlotRange} {count : Nat}

def totalLen (entries : List (Client × SlotRange)) : Nat :=
  (entries.map fun entry => entry.2.len).sum

/-- The ranges are not empty, do not overlap, and cover the first `count`
slots. -/
structure Laid (ranges : OrderedMap Client SlotRange) (count : Nat) : Prop where
  nonempty : ∀ client range, ranges.lookup client = some range →
    range.start < range.stop
  disjoint : ∀ client client' range range' slot,
    ranges.lookup client = some range → ranges.lookup client' = some range' →
      client ≠ client' → range.Contains slot → ¬ range'.Contains slot
  covered : ∀ slot, (∃ client range, ranges.lookup client = some range ∧
    range.Contains slot) ↔ slot < count
  total : totalLen ranges.entries = count

theorem laid_empty : Laid (.empty : OrderedMap Client SlotRange) 0 where
  nonempty := nofun
  disjoint := nofun
  covered := by
    intro slot
    exact ⟨nofun, nofun⟩
  total := rfl

variable {entries : List (Client × SlotRange)}

omit [LinearOrder Client] in
theorem totalLen_perm {entries' : List (Client × SlotRange)}
    (hperm : entries.Perm entries') : totalLen entries = totalLen entries' :=
  (hperm.map _).sum_nat

/-- A new client gets the slots after those handed out. -/
theorem Laid.insert {client : Client} {size : Nat} (hlaid : Laid ranges count)
    (habsent : ranges.lookup client = none) (hsize : 0 < size) :
    Laid (ranges.insert client ⟨count, count + size⟩) (count + size) := by
  have hbelow : ∀ other range slot, ranges.lookup other = some range →
      range.Contains slot → slot < count := by
    intro other range slot hrange hslot
    exact (hlaid.covered slot).mp ⟨other, range, hrange, hslot⟩
  refine ⟨?_, ?_, ?_, ?_⟩
  · intro other range hrange
    rw [OrderedMap.lookup_insert, Function.update_apply] at hrange
    split_ifs at hrange
    · cases hrange
      exact Nat.lt_add_of_pos_right hsize
    · exact hlaid.nonempty other range hrange
  · intro first second range range' slot hrange hrange' hne hslot hslot'
    rw [OrderedMap.lookup_insert, Function.update_apply] at hrange hrange'
    split_ifs at hrange hrange' with hfirst hsecond hsecond
    · exact hne (hfirst.trans hsecond.symm)
    · cases hrange
      exact absurd hslot.1 (not_le.mpr (hbelow second range' slot hrange' hslot'))
    · cases hrange'
      exact absurd hslot'.1 (not_le.mpr (hbelow first range slot hrange hslot))
    · exact hlaid.disjoint first second range range' slot hrange hrange' hne
        hslot hslot'
  · intro slot
    constructor
    · rintro ⟨other, range, hrange, hslot⟩
      rw [OrderedMap.lookup_insert, Function.update_apply] at hrange
      split_ifs at hrange
      · cases hrange
        exact hslot.2
      · exact Nat.lt_add_right size (hbelow other range slot hrange hslot)
    · intro hslot
      by_cases hold : slot < count
      · obtain ⟨other, range, hrange, hcontains⟩ := (hlaid.covered slot).mpr hold
        have hother : other ≠ client := by
          rintro rfl
          exact nomatch habsent.symm.trans hrange
        refine ⟨other, range, ?_, hcontains⟩
        rw [OrderedMap.lookup_insert, Function.update_of_ne hother, hrange]
      · refine ⟨client, ⟨count, count + size⟩, ?_, not_lt.mp hold, hslot⟩
        rw [OrderedMap.lookup_insert, Function.update_self]
  · calc totalLen (ranges.insert client ⟨count, count + size⟩).entries
        = totalLen ((client, ⟨count, count + size⟩) :: ranges.entries) :=
          totalLen_perm (OrderedMap.entries_insert_perm habsent _)
      _ = size + count := by
          rw [← hlaid.total]
          simp [totalLen, SlotRange.len]
      _ = count + size := Nat.add_comm size count

/-- The ranges laid one after the other from `first` on. -/
def lay (first : Nat) (entries : List (Client × SlotRange)) :
    List (Client × SlotRange) :=
  OrderedMap.mapAccumEntries TouchInjectorService.moveRange first entries

omit [LinearOrder Client] in
theorem exists_lay_contains_iff (first : Nat)
    (entries : List (Client × SlotRange)) (slot : Nat) :
    (∃ entry ∈ lay first entries, entry.2.Contains slot) ↔
      first ≤ slot ∧ slot < first + totalLen entries := by
  induction entries generalizing first with
  | nil => simp [lay, OrderedMap.mapAccumEntries, totalLen]
  | cons entry rest ih =>
    have hrest := ih (first + entry.2.len)
    simp only [lay, OrderedMap.mapAccumEntries, List.mem_cons,
      exists_eq_or_imp, TouchInjectorService.moveRange,
      SlotRange.Contains, totalLen, List.map_cons, List.sum_cons] at hrest ⊢
    rw [hrest]
    omega

omit [LinearOrder Client] in
theorem le_start_of_mem_lay {first : Nat} {entry : Client × SlotRange}
    (hentry : entry ∈ lay first entries) : first ≤ entry.2.start := by
  induction entries generalizing first with
  | nil => exact nomatch hentry
  | cons head rest ih =>
    rcases List.mem_cons.mp hentry with rfl | hrest
    · exact le_rfl
    · exact (Nat.le_add_right first head.2.len).trans (ih hrest)

omit [LinearOrder Client] in
/-- Each range ends before the next ones begin. -/
theorem pairwise_lay (first : Nat) (entries : List (Client × SlotRange)) :
    (lay first entries).Pairwise fun left right =>
      left.2.stop ≤ right.2.start := by
  induction entries generalizing first with
  | nil => exact List.Pairwise.nil
  | cons entry rest ih =>
    exact List.pairwise_cons.mpr
      ⟨fun later hlater => le_start_of_mem_lay hlater, ih _⟩

omit [LinearOrder Client] in
theorem totalLen_lay (first : Nat) (entries : List (Client × SlotRange)) :
    totalLen (lay first entries) = totalLen entries := by
  induction entries generalizing first with
  | nil => rfl
  | cons entry rest ih =>
    have hrest := ih (first + entry.2.len)
    simp only [totalLen, lay, OrderedMap.mapAccumEntries, List.map_cons,
      List.sum_cons, TouchInjectorService.moveRange] at hrest ⊢
    rw [hrest, SlotRange.len, Nat.add_sub_cancel_left]

/-- A moved range keeps its length. -/
theorem exists_lookup_of_moved {client : Client} {range : SlotRange}
    (hrange : (ranges.mapAccum TouchInjectorService.moveRange 0).lookup client =
      some range) :
    ∃ old, ranges.lookup client = some old ∧
      range.stop = range.start + old.len := by
  have hsome : (ranges.lookup client).isSome := by
    rw [← OrderedMap.isSome_lookup_mapAccum 0 client, hrange]
    rfl
  obtain ⟨old, hold⟩ := Option.isSome_iff_exists.mp hsome
  obtain ⟨first, hmoved⟩ := OrderedMap.exists_lookup_mapAccum hold 0
  cases hmoved.symm.trans hrange
  exact ⟨old, hold, rfl⟩

omit [LinearOrder Client] in
/-- Different ranges that are laid one after the other do not overlap. -/
theorem not_contains_of_mem_lay {first : Nat}
    {left right : Client × SlotRange} (hleft : left ∈ lay first entries)
    (hright : right ∈ lay first entries) (hne : left ≠ right) {slot : Nat}
    (hslot : left.2.Contains slot) : ¬ right.2.Contains slot := by
  let Apart (left right : Client × SlotRange) : Prop :=
    left.2.stop ≤ right.2.start ∨ right.2.stop ≤ left.2.start
  have hsymm : Std.Symm Apart := ⟨fun _ _ => Or.symm⟩
  have hpairwise : (lay first entries).Pairwise Apart :=
    (pairwise_lay first entries).imp Or.inl
  have hapart : Apart left right := hpairwise.forall hleft hright hne
  intro hslot'
  rcases hapart with hbefore | hafter
  · exact absurd (hslot.2.trans_le hbefore) (not_lt.mpr hslot'.1)
  · exact absurd (hslot'.2.trans_le hafter) (not_lt.mpr hslot.1)

/-- Ranges that were not empty tile the slots again after they are moved. -/
theorem laid_mapAccum
    (hnonempty : ∀ client range, ranges.lookup client = some range →
      range.start < range.stop) :
    Laid (ranges.mapAccum TouchInjectorService.moveRange 0)
      (totalLen ranges.entries) := by
  refine ⟨?_, ?_, ?_, totalLen_lay 0 ranges.entries⟩
  · intro client range hrange
    obtain ⟨old, hold, hstop⟩ := exists_lookup_of_moved hrange
    have hlen : 0 < old.len := Nat.sub_pos_of_lt (hnonempty client old hold)
    omega
  · intro client client' range range' slot hrange hrange' hne hslot
    apply not_contains_of_mem_lay (OrderedMap.mem_entries_iff.mpr hrange)
      (OrderedMap.mem_entries_iff.mpr hrange') _ hslot
    intro heq
    exact hne (congrArg Prod.fst heq)
  · intro slot
    have hcovered := exists_lay_contains_iff 0 ranges.entries slot
    rw [Nat.zero_add, and_iff_right (Nat.zero_le slot)] at hcovered
    rw [← hcovered, Prod.exists]
    refine exists_congr fun client => exists_congr fun range => ?_
    rw [← OrderedMap.mem_entries_iff]
    rfl

end Laid

namespace TouchInjectorService

variable {Client : Type} [LinearOrder Client] {emit : Emit}
  {service next : TouchInjectorService Client} {client : Client}
  {addSlotCount : Nat}

/-! ## Pressed slots -/

/-- The entry of a client's slot is pressed. -/
def PressedAt (service : TouchInjectorService Client) (client : Client)
    (index : Nat) : Prop :=
  ∃ positions position,
    service.pressedPositionMap.lookup client = some positions ∧
      positions[index]? = some (some position)

/-- The slot belongs to a pressed entry of some client. -/
def Pressed (service : TouchInjectorService Client) (slot : Nat) : Prop :=
  ∃ client range index, service.slotRangeMap.lookup client = some range ∧
    service.PressedAt client index ∧ slot = range.start + index

/-- The clients with pressed entries are those with ranges, and have as many
entries as slots. -/
structure Matched (ranges : OrderedMap Client SlotRange)
    (pressed : OrderedMap Client (List (Option Position))) : Prop where
  registered : ∀ client,
    (pressed.lookup client).isSome = (ranges.lookup client).isSome
  lengths : ∀ client range positions, ranges.lookup client = some range →
    pressed.lookup client = some positions → positions.length = range.len

theorem mem_pressedTouches_iff (service : TouchInjectorService Client)
    (slot : Nat) :
    slot ∈ service.pressedTouches.map Prod.fst ↔ service.Pressed slot := by
  rw [List.mem_map]
  constructor
  · rintro ⟨touch, htouch, rfl⟩
    obtain ⟨⟨client, range⟩, hentry, hpressed⟩ := List.mem_flatMap.mp htouch
    cases hpositions : service.pressedPositionMap.lookup client with
    | none =>
      simp only [hpositions] at hpressed
      exact nomatch hpressed
    | some positions =>
      simp only [hpositions] at hpressed
      obtain ⟨⟨entry, index⟩, hindex, hmap⟩ := List.mem_filterMap.mp hpressed
      obtain ⟨position, rfl, rfl⟩ := Option.map_eq_some_iff.mp hmap
      exact ⟨client, range, index, OrderedMap.mem_entries_iff.mp hentry,
        ⟨positions, position, hpositions,
          List.mem_zipIdx_iff_getElem?.mp hindex⟩, rfl⟩
  · rintro ⟨client, range, index, hrange, ⟨positions, position, hpositions,
      hindex⟩, rfl⟩
    refine ⟨(range.start + index, position), ?_, rfl⟩
    apply List.mem_flatMap.mpr
    refine ⟨(client, range), OrderedMap.mem_entries_iff.mpr hrange, ?_⟩
    simp only [hpositions]
    apply List.mem_filterMap.mpr
    exact ⟨(some position, index), List.mem_zipIdx_iff_getElem?.mpr hindex, rfl⟩

variable {index : Nat} {range : SlotRange}

theorem PressedAt.lt (hpressed : service.PressedAt client index)
    (hmatched : Matched service.slotRangeMap service.pressedPositionMap)
    (hrange : service.slotRangeMap.lookup client = some range) :
    index < range.len := by
  obtain ⟨positions, position, hpositions, hindex⟩ := hpressed
  rw [← hmatched.lengths client range positions hrange hpositions]
  exact (List.getElem?_eq_some_iff.mp hindex).1

theorem contains_of_lt_len (hindex : index < range.len) :
    range.Contains (range.start + index) := by
  rw [SlotRange.len] at hindex
  exact ⟨Nat.le_add_right _ _, by omega⟩

variable {slot : Nat}

theorem Pressed.lt (hpressed : service.Pressed slot)
    (hmatched : Matched service.slotRangeMap service.pressedPositionMap)
    (hlaid : Laid service.slotRangeMap service.slotCount) :
    slot < service.slotCount := by
  obtain ⟨client, range, index, hrange, hentry, rfl⟩ := hpressed
  have hindex := hentry.lt hmatched hrange
  exact (hlaid.covered _).mp ⟨client, range, hrange, contains_of_lt_len hindex⟩

variable {count : Nat}

/-- A slot is one entry of one client. -/
theorem slot_inj {ranges : OrderedMap Client SlotRange}
    (hlaid : Laid ranges count) {client client' : Client} {range' : SlotRange}
    {index' : Nat} (hrange : ranges.lookup client = some range)
    (hrange' : ranges.lookup client' = some range')
    (hindex : index < range.len) (hindex' : index' < range'.len)
    (hslot : range.start + index = range'.start + index') :
    client = client' ∧ index = index' := by
  have hclient : client = client' := by
    by_contra hne
    have hcontains := contains_of_lt_len hindex
    rw [hslot] at hcontains
    exact hlaid.disjoint client client' range range' _ hrange hrange' hne
      hcontains (contains_of_lt_len hindex')
  subst hclient
  cases hrange.symm.trans hrange'
  exact ⟨rfl, Nat.add_left_cancel hslot⟩

/-! ## Lifting and restoring all touches -/

theorem disableAllTouches_eq (emit : Emit)
    (service : TouchInjectorService Client) :
    service.disableAllTouches emit =
      some { service with
        touchEmulator := .new service.touchEmulator.slotStates.length } := by
  rw [disableAllTouches, TouchEmulator.endAllTouches_eq, Option.map_some]

/-- The tables describe each other, and the emulator touches the slots of the
pressed entries. -/
structure Consistent (service : TouchInjectorService Client) : Prop where
  laid : Laid service.slotRangeMap service.slotCount
  matched : Matched service.slotRangeMap service.pressedPositionMap
  active : ∀ slot, service.touchEmulator.slotStates[slot]? = some true ↔
    service.Pressed slot

/-- The invariant between two calls, while the slots suffice. -/
structure Kept (addSlotCount : Nat) (service : TouchInjectorService Client) :
    Prop extends Consistent service where
  fits : service.slotCount ≤ addSlotCount
  length_eq : service.touchEmulator.slotStates.length = addSlotCount

theorem kept_new (addSlotCount : Nat) :
    Kept addSlotCount (new addSlotCount : TouchInjectorService Client) where
  laid := laid_empty
  matched := ⟨fun _ => rfl, by rintro client range positions ⟨⟩⟩
  active := by
    intro slot
    refine iff_of_false ?_ (by rintro ⟨client, range, index, ⟨⟩, -⟩)
    rw [new, TouchEmulator.new, List.getElem?_replicate]
    split_ifs <;> rintro ⟨⟩
  fits := Nat.zero_le addSlotCount
  length_eq := List.length_replicate

/-- Touches of existing slots are restored without a panic. -/
theorem enableAllTouches_eq (emit : Emit)
    (hbelow : ∀ slot, service.Pressed slot →
      slot < service.touchEmulator.slotStates.length) :
    service.enableAllTouches emit = some { service with
      touchEmulator := ⟨TouchEmulator.setAll true
        service.touchEmulator.slotStates
        (service.pressedTouches.map Prod.fst)⟩ } := by
  rw [enableAllTouches, TouchEmulator.foldlM_eq_setAll, Option.map_some]
  · intro emulator touch _ hslot
    exact TouchEmulator.touchState_of_lt hslot _
  · intro touch htouch
    apply hbelow
    rw [← mem_pressedTouches_iff]
    exact List.mem_map_of_mem htouch

/-- The state while the tables have changed and all touches are lifted. -/
structure Lifted (addSlotCount : Nat) (service : TouchInjectorService Client) :
    Prop where
  laid : Laid service.slotRangeMap service.slotCount
  matched : Matched service.slotRangeMap service.pressedPositionMap
  fits : service.slotCount ≤ addSlotCount
  lifted : service.touchEmulator = .new addSlotCount

/-- Restoring the touches on lifted slots establishes the invariant. -/
theorem Lifted.exists_enableAllTouches (hlifted : Lifted addSlotCount service)
    (emit : Emit) :
    ∃ next, service.enableAllTouches emit = some next ∧
      Kept addSlotCount next := by
  have hlength : service.touchEmulator.slotStates.length = addSlotCount := by
    rw [hlifted.lifted]
    exact List.length_replicate
  have hbelow : ∀ slot, service.Pressed slot → slot < addSlotCount := by
    intro slot hpressed
    exact (hpressed.lt hlifted.matched hlifted.laid).trans_le hlifted.fits
  refine ⟨_, enableAllTouches_eq emit (hlength ▸ hbelow),
    ⟨hlifted.laid, hlifted.matched, fun slot => ?_⟩, hlifted.fits, ?_⟩
  · have hmem := mem_pressedTouches_iff service slot
    rw [TouchEmulator.getElem?_setAll, hlifted.lifted, TouchEmulator.new,
      List.getElem?_replicate]
    by_cases hpressed : service.Pressed slot
    · rw [if_pos (hmem.mpr hpressed), if_pos (hbelow slot hpressed)]
      exact iff_of_true rfl hpressed
    · rw [if_neg (mt hmem.mp hpressed)]
      refine iff_of_false ?_ hpressed
      split_ifs <;> rintro ⟨⟩
  · rw [TouchEmulator.length_setAll, hlength]

theorem Lifted.kept (hlifted : Lifted addSlotCount service)
    (hnext : service.enableAllTouches emit = some next) :
    Kept addSlotCount next := by
  obtain ⟨other, hother, hkept⟩ := hlifted.exists_enableAllTouches emit
  cases hother.symm.trans hnext
  exact hkept

/-! ## Registration -/

section Matched

variable {ranges : OrderedMap Client SlotRange}
  {pressed : OrderedMap Client (List (Option Position))}

theorem Matched.insert (hmatched : Matched ranges pressed) {range : SlotRange}
    {positions : List (Option Position)}
    (hlength : positions.length = range.len) :
    Matched (ranges.insert client range) (pressed.insert client positions) where
  registered := by
    intro other
    rw [OrderedMap.lookup_insert, OrderedMap.lookup_insert,
      Function.update_apply, Function.update_apply]
    split_ifs
    · rfl
    · exact hmatched.registered other
  lengths := by
    intro other range' positions' hrange hpositions
    rw [OrderedMap.lookup_insert, Function.update_apply] at hrange hpositions
    split_ifs at hrange hpositions
    · cases hrange
      cases hpositions
      exact hlength
    · exact hmatched.lengths other range' positions' hrange hpositions

theorem Matched.erase (hmatched : Matched ranges pressed) (client : Client) :
    Matched (ranges.erase client) (pressed.erase client) where
  registered := by
    intro other
    rw [OrderedMap.lookup_erase, OrderedMap.lookup_erase,
      Function.update_apply, Function.update_apply]
    split_ifs
    · rfl
    · exact hmatched.registered other
  lengths := by
    intro other range positions hrange hpositions
    rw [OrderedMap.lookup_erase, Function.update_apply] at hrange hpositions
    split_ifs at hrange hpositions
    exact hmatched.lengths other range positions hrange hpositions

theorem Matched.moved (hmatched : Matched ranges pressed) :
    Matched (ranges.mapAccum moveRange 0) pressed where
  registered := by
    intro other
    rw [OrderedMap.isSome_lookup_mapAccum, hmatched.registered]
  lengths := by
    intro other range positions hrange hpositions
    obtain ⟨old, hold, hstop⟩ := exists_lookup_of_moved hrange
    have hlen : range.len = old.len := by
      rw [SlotRange.len, hstop, Nat.add_sub_cancel_left]
    rw [hlen, hmatched.lengths other old positions hold hpositions]

end Matched

theorem checkedAdd_eq_some {left right sum : Nat}
    (hsum : checkedAdd left right = some sum) : sum = left + right := by
  rw [checkedAdd] at hsum
  split_ifs at hsum
  exact (Option.some.inj hsum).symm

theorem checkedSub_eq_some {left right difference : Nat}
    (hdifference : checkedSub left right = some difference) :
    right ≤ left ∧ difference = left - right := by
  rw [checkedSub] at hdifference
  split_ifs at hdifference with hle
  exact ⟨hle, (Option.some.inj hdifference).symm⟩

theorem length_emptyPositions {positions : List (Option Position)}
    (hpositions : emptyPositions count = some positions) :
    positions.length = count := by
  rw [emptyPositions] at hpositions
  split_ifs at hpositions
  rw [← Option.some.inj hpositions, List.length_replicate]

/-- What the handlers leave of the tables when they restore the touches. -/
theorem enableAllTouches_frame (hnext : service.enableAllTouches emit = some next) :
    next.slotCount = service.slotCount ∧
      next.slotRangeMap = service.slotRangeMap ∧
      next.pressedPositionMap = service.pressedPositionMap := by
  obtain ⟨emulator, -, rfl⟩ := Option.map_eq_some_iff.mp hnext
  exact ⟨rfl, rfl, rfl⟩

/-- The service with a new client in the tables and all touches lifted. -/
def enter (service : TouchInjectorService Client) (client : Client)
    (count : Nat) (positions : List (Option Position)) :
    TouchInjectorService Client where
  slotCount := service.slotCount + count
  slotRangeMap := service.slotRangeMap.insert client
    ⟨service.slotCount, service.slotCount + count⟩
  pressedPositionMap := service.pressedPositionMap.insert client positions
  touchEmulator := .new service.touchEmulator.slotStates.length

theorem isRegistered_eq_false_iff :
    service.isRegistered client = false ↔
      service.slotRangeMap.lookup client = none := by
  rw [isRegistered, Option.isSome_eq_false_iff, Option.isNone_iff_eq_none]

variable {reply : Option Int}

/-- A client that is known, does not answer or asks for no slots changes
nothing. -/
theorem registerClient_of_refused (emit : Emit)
    (hrefused : (service.slotRangeMap.lookup client).isSome ∨
      ∀ value ∈ reply, asUsize value = 0) :
    ∃ status, service.registerClient emit client reply =
      some (status, service) := by
  cases hregistered : service.isRegistered client with
  | true =>
    refine ⟨.ok, ?_⟩
    simp only [registerClient, hregistered, if_true]
  | false =>
    have hzero := hrefused.resolve_left
      (by rw [← isRegistered, hregistered]; exact nofun)
    cases reply with
    | none =>
      refine ⟨.clientError, ?_⟩
      rw [registerClient, hregistered]
      rfl
    | some value =>
      refine ⟨.invalidArgument
        "Requested slot count must be greater than zero", ?_⟩
      rw [registerClient, hregistered]
      simp only [Bool.false_eq_true, if_false, hzero value rfl, if_true]

/-- A new client with slots is entered, when their number can be added and
their positions allocated, and the touches are restored. -/
theorem registerClient_eq (emit : Emit)
    (habsent : service.slotRangeMap.lookup client = none) {value : Int}
    (hcount : asUsize value ≠ 0) :
    service.registerClient emit client (some value) =
      (checkedAdd service.slotCount (asUsize value)).bind fun _ =>
        (emptyPositions (asUsize value)).bind fun positions =>
          ((service.enter client (asUsize value) positions).enableAllTouches
            emit).bind fun service => some (.ok, service) := by
  rw [registerClient, isRegistered_eq_false_iff.mpr habsent]
  simp only [Bool.false_eq_true, if_false, if_neg hcount, bind, pure,
    disableAllTouches_eq, Option.bind_some, newRange, reserve, insertPositions]
  cases hsum : checkedAdd service.slotCount (asUsize value) with
  | none => rfl
  | some sum =>
    rw [checkedAdd_eq_some hsum]
    cases hpositions : emptyPositions (asUsize value) with
    | none | some => rfl

variable {status : Status}

/-- A registration that changes anything restores the touches with the new
client in the tables. -/
theorem registerClient_cases
    (hcall : service.registerClient emit client reply = some (status, next)) :
    next = service ∨
      ∃ count positions, 0 < count ∧ emptyPositions count = some positions ∧
        service.slotRangeMap.lookup client = none ∧
        (service.enter client count positions).enableAllTouches emit =
          some next := by
  by_cases hrefused : (service.slotRangeMap.lookup client).isSome ∨
      ∀ value ∈ reply, asUsize value = 0
  · obtain ⟨status', hsame⟩ := registerClient_of_refused emit hrefused
    cases hsame.symm.trans hcall
    exact Or.inl rfl
  · simp only [not_or, not_forall] at hrefused
    obtain ⟨hunknown, value, rfl, hcount⟩ := hrefused
    have habsent := Option.not_isSome_iff_eq_none.mp hunknown
    rw [registerClient_eq emit habsent hcount] at hcall
    simp only [Option.bind_eq_some_iff] at hcall
    obtain ⟨-, -, positions, hpositions, last, henable, hlast⟩ := hcall
    cases hlast
    exact Or.inr ⟨asUsize value, positions, Nat.pos_of_ne_zero hcount,
      hpositions, habsent, henable⟩

theorem Kept.lifted_enter (hkept : Kept addSlotCount service)
    {positions : List (Option Position)}
    (habsent : service.slotRangeMap.lookup client = none) (hcount : 0 < count)
    (hpositions : emptyPositions count = some positions)
    (hfits : service.slotCount + count ≤ addSlotCount) :
    Lifted addSlotCount (service.enter client count positions) where
  laid := hkept.laid.insert habsent hcount
  matched := by
    apply hkept.matched.insert
    rw [length_emptyPositions hpositions, SlotRange.len,
      Nat.add_sub_cancel_left]
  fits := hfits
  lifted := by
    rw [enter, hkept.length_eq]

theorem Kept.registerClient (hkept : Kept addSlotCount service)
    (hcall : service.registerClient emit client reply = some (status, next))
    (hfits : next.slotCount ≤ addSlotCount) : Kept addSlotCount next := by
  rcases registerClient_cases hcall with
    rfl | ⟨count, positions, hcount, hpositions, habsent, hnext⟩
  · exact hkept
  · rw [(enableAllTouches_frame hnext).1] at hfits
    exact (hkept.lifted_enter habsent hcount hpositions hfits).kept hnext

/-- The service without a client, with all touches lifted. -/
def leave (service : TouchInjectorService Client) (client : Client)
    (range : SlotRange) : TouchInjectorService Client where
  slotCount := service.slotCount - range.len
  slotRangeMap := (service.slotRangeMap.erase client).mapAccum moveRange 0
  pressedPositionMap := service.pressedPositionMap.erase client
  touchEmulator := .new service.touchEmulator.slotStates.length

theorem unregisterClient_eq (emit : Emit)
    (hrange : service.slotRangeMap.lookup client = some range) :
    service.unregisterClient emit client =
      (checkedSub service.slotCount range.len).bind fun _ =>
        ((service.leave client range).enableAllTouches emit).bind fun service =>
          some (.ok, service) := by
  have hregistered : service.isRegistered client = true := by
    rw [isRegistered, hrange]
    rfl
  simp only [TouchInjectorService.unregisterClient, hregistered, if_true, bind,
    pure, disableAllTouches_eq, Option.bind_some, rangeLen, hrange,
    Option.map_some, release]
  cases hdifference : checkedSub service.slotCount range.len with
  | none => rfl
  | some difference =>
    rw [(checkedSub_eq_some hdifference).2]
    rfl

/-- Likewise an unregistration, without the client and with its ranges
moved. -/
theorem unregisterClient_cases
    (hcall : service.unregisterClient emit client = some (status, next)) :
    next = service ∨
      ∃ range, service.slotRangeMap.lookup client = some range ∧
        (service.leave client range).enableAllTouches emit = some next := by
  cases hrange : service.slotRangeMap.lookup client with
  | none =>
    rw [TouchInjectorService.unregisterClient,
      isRegistered_eq_false_iff.mpr hrange] at hcall
    cases hcall
    exact Or.inl rfl
  | some range =>
    rw [unregisterClient_eq emit hrange] at hcall
    simp only [Option.bind_eq_some_iff] at hcall
    obtain ⟨-, -, last, henable, hlast⟩ := hcall
    cases hlast
    exact Or.inr ⟨range, rfl, henable⟩

theorem Kept.lifted_leave (hkept : Kept addSlotCount service)
    (hrange : service.slotRangeMap.lookup client = some range) :
    Lifted addSlotCount (service.leave client range) where
  laid := by
    have htotal : totalLen (service.slotRangeMap.erase client).entries =
        service.slotCount - range.len := by
      have hperm := totalLen_perm (OrderedMap.entries_erase_perm hrange)
      rw [hkept.laid.total] at hperm
      simp only [totalLen, List.map_cons, List.sum_cons] at hperm ⊢
      omega
    have hnonempty : ∀ other range',
        (service.slotRangeMap.erase client).lookup other = some range' →
          range'.start < range'.stop := by
      intro other range' hrange'
      rw [OrderedMap.lookup_erase, Function.update_apply] at hrange'
      split_ifs at hrange'
      exact hkept.laid.nonempty other range' hrange'
    have hlaid := laid_mapAccum hnonempty
    rw [htotal] at hlaid
    exact hlaid
  matched := (hkept.matched.erase client).moved
  fits := (Nat.sub_le _ _).trans hkept.fits
  lifted := by
    rw [leave, hkept.length_eq]

theorem Kept.unregisterClient (hkept : Kept addSlotCount service)
    (hcall : service.unregisterClient emit client = some (status, next)) :
    Kept addSlotCount next := by
  rcases unregisterClient_cases hcall with rfl | ⟨range, hrange, hnext⟩
  · exact hkept
  · exact (hkept.lifted_leave hrange).kept hnext

/-! ## Touches -/

section SetPressed

variable {positions : List (Option Position)} {slot : Nat}

theorem lookup_setPressed
    (hpositions : service.pressedPositionMap.lookup client = some positions)
    (position : Option Position) :
    (service.setPressed client slot position).pressedPositionMap.lookup =
      Function.update service.pressedPositionMap.lookup client
        (some (positions.set slot position)) := by
  simp only [setPressed, hpositions]
  exact OrderedMap.lookup_insert _ _ _

theorem pressedAt_setPressed_iff
    (hpositions : service.pressedPositionMap.lookup client = some positions)
    (hslot : slot < positions.length) (position : Option Position)
    (other : Client) (index : Nat) :
    (service.setPressed client slot position).PressedAt other index ↔
      if other = client ∧ index = slot then position.isSome = true
      else service.PressedAt other index := by
  simp only [PressedAt, lookup_setPressed hpositions, Function.update_apply]
  by_cases hother : other = client
  · subst hother
    by_cases hindex : index = slot
    · subst hindex
      simp [List.getElem?_set_self hslot, Option.isSome_iff_exists]
    · simp [hindex, hpositions, List.getElem?_set_ne (Ne.symm hindex)]
  · simp [hother]

theorem Matched.setPressed
    (hmatched : Matched service.slotRangeMap service.pressedPositionMap)
    (hpositions : service.pressedPositionMap.lookup client = some positions)
    (position : Option Position) :
    Matched (service.setPressed client slot position).slotRangeMap
      (service.setPressed client slot position).pressedPositionMap where
  registered := by
    intro other
    rw [lookup_setPressed hpositions, Function.update_apply]
    split_ifs with hother
    · have hregistered := hmatched.registered client
      rw [hpositions] at hregistered
      rw [hother]
      exact hregistered
    · exact hmatched.registered other
  lengths := by
    intro other range positions' hrange hpositions'
    rw [lookup_setPressed hpositions, Function.update_apply] at hpositions'
    split_ifs at hpositions' with hother
    · cases hpositions'
      rw [List.length_set]
      exact hmatched.lengths client range positions (hother ▸ hrange) hpositions
    · exact hmatched.lengths other range positions' hrange hpositions'

section

variable (hkept : Kept addSlotCount service) {range : SlotRange}
  (hrange : service.slotRangeMap.lookup client = some range)
  (hpositions : service.pressedPositionMap.lookup client = some positions)
  (hslot : slot < positions.length)
include hkept hrange hpositions hslot

/-- The pressed slots after one entry has changed. -/
theorem pressed_setPressed_iff (position : Option Position) (target : Nat) :
    (service.setPressed client slot position).Pressed target ↔
      if target = range.start + slot then position.isSome = true
      else service.Pressed target := by
  have hchanged := pressedAt_setPressed_iff hpositions hslot position
  split_ifs with htarget
  · constructor
    · rintro ⟨other, range', index, hrange', hentry, hindex⟩
      have hbelow := hentry.lt (hkept.matched.setPressed hpositions position)
        hrange'
      rw [hkept.matched.lengths client range positions hrange hpositions]
        at hslot
      obtain ⟨rfl, rfl⟩ := slot_inj hkept.laid hrange hrange' hslot hbelow
        (htarget.symm.trans hindex)
      rwa [hchanged, if_pos ⟨rfl, rfl⟩] at hentry
    · intro hsome
      refine ⟨client, range, slot, hrange, ?_, htarget⟩
      rwa [hchanged, if_pos ⟨rfl, rfl⟩]
  · refine exists_congr fun other => exists_congr fun range' =>
      exists_congr fun index => and_congr_right fun hrange' =>
        and_congr_left fun hindex => ?_
    rw [hchanged, if_neg]
    rintro ⟨rfl, rfl⟩
    cases hrange.symm.trans hrange'
    exact htarget hindex

/-- Changing an entry and the emulator slot of it keeps the invariant. -/
theorem Kept.setPressed {position : Option Position}
    (hnext : (service.setPressed client slot position).touch emit
      (range.start + slot) position = some next) : Kept addSlotCount next := by
  have hbelow : range.start + slot < service.touchEmulator.slotStates.length := by
    rw [hkept.matched.lengths client range positions hrange hpositions] at hslot
    rw [hkept.length_eq]
    refine lt_of_lt_of_le ?_ hkept.fits
    exact (hkept.laid.covered _).mp
      ⟨client, range, hrange, contains_of_lt_len hslot⟩
  have htouch : (service.setPressed client slot position).touch emit
      (range.start + slot) position =
        some { service.setPressed client slot position with
          touchEmulator := ⟨service.touchEmulator.slotStates.set
            (range.start + slot) position.isSome⟩ } := by
    rw [touch]
    exact congrArg (Option.map _) (TouchEmulator.touchState_of_lt hbelow position)
  cases htouch.symm.trans hnext
  refine ⟨⟨hkept.laid, hkept.matched.setPressed hpositions position,
    fun target => ?_⟩, hkept.fits, ?_⟩
  · calc (service.touchEmulator.slotStates.set (range.start + slot)
          position.isSome)[target]? = some true
        ↔ if target = range.start + slot then position.isSome = true
          else service.Pressed target := by
          split_ifs with htarget
          · rw [htarget, List.getElem?_set_self hbelow, Option.some_inj]
          · rw [List.getElem?_set_ne (Ne.symm htarget)]
            exact hkept.active target
      _ ↔ (service.setPressed client slot position).Pressed target :=
          (pressed_setPressed_iff hkept hrange hpositions hslot position
            target).symm
  · rw [List.length_set, hkept.length_eq]

end

end SetPressed

/-- The last piece of a touch does nothing, or changes an entry of the client
and the emulator slot that the range gives for it. -/
def Touches (emit : Emit) (service : TouchInjectorService Client)
    (client : Client) (range : SlotRange) (slot : Nat)
    (next : TouchInjectorService Client) : Prop :=
  ∃ positions, service.pressedPositionMap.lookup client = some positions ∧
    slot < positions.length ∧
      (next = service ∨ ∃ position,
        (service.setPressed client slot position).touch emit
          (range.start + slot) position = some next)

theorem pressedEntry_eq_some {entry : Option Position}
    (hentry : service.pressedEntry client slot = some entry) :
    ∃ positions, service.pressedPositionMap.lookup client = some positions ∧
      slot < positions.length := by
  obtain ⟨positions, hpositions, hget⟩ := Option.bind_eq_some_iff.mp hentry
  exact ⟨positions, hpositions, (List.getElem?_eq_some_iff.mp hget).1⟩

/-- The piece finds the entry as it should become, or changes it. -/
def Changes (emit : Emit) (service : TouchInjectorService Client)
    (client : Client) (range : SlotRange) (slot : Nat) (press : Bool)
    (next : TouchInjectorService Client) : Prop :=
  ∃ entry, service.pressedEntry client slot = some entry ∧
    (entry.isSome = press ∧ next = service ∨
      entry.isSome ≠ press ∧ ∃ position, position.isSome = press ∧
        (service.setPressed client slot position).touch emit
          (range.start + slot) position = some next)

theorem press_changes {x y : Int}
    (hcall : service.press emit client range slot x y = some (status, next)) :
    Changes emit service client range slot true next := by
  unfold press at hcall
  simp only [bind, pure, Option.bind_eq_some_iff] at hcall
  obtain ⟨entry, hentry, hbody⟩ := hcall
  refine ⟨entry, hentry, ?_⟩
  split_ifs at hbody with hpressed
  · cases hbody
    exact Or.inl ⟨hpressed, rfl⟩
  · simp only [Option.bind_eq_some_iff] at hbody
    obtain ⟨x', -, y', -, last, htouch, hlast⟩ := hbody
    cases hlast
    exact Or.inr ⟨hpressed, some (x', y'), rfl, htouch⟩

theorem lift_changes
    (hcall : service.lift emit client range slot = some (status, next)) :
    Changes emit service client range slot false next := by
  unfold lift at hcall
  simp only [bind, pure, Option.bind_eq_some_iff] at hcall
  obtain ⟨entry, hentry, hbody⟩ := hcall
  refine ⟨entry, hentry, ?_⟩
  split_ifs at hbody with hreleased
  · cases hbody
    exact Or.inl ⟨by simpa using hreleased, rfl⟩
  · simp only [Option.bind_eq_some_iff] at hbody
    obtain ⟨last, htouch, hlast⟩ := hbody
    cases hlast
    exact Or.inr ⟨by simpa using hreleased, none, rfl, htouch⟩

theorem Changes.touches {press : Bool}
    (hchanges : Changes emit service client range slot press next) :
    Touches emit service client range slot next := by
  obtain ⟨entry, hentry, hcases⟩ := hchanges
  obtain ⟨positions, hpositions, hslot⟩ := pressedEntry_eq_some hentry
  refine ⟨positions, hpositions, hslot, ?_⟩
  rcases hcases with ⟨-, hsame⟩ | ⟨-, position, -, htouch⟩
  · exact Or.inl hsame
  · exact Or.inr ⟨position, htouch⟩

variable {slotId : Int}

theorem withRange_cases
    {body : SlotRange → Nat → Option (Status × TouchInjectorService Client)}
    (hcall : service.withRange client slotId body = some (status, next)) :
    next = service ∨ ∃ range, service.slotRangeMap.lookup client = some range ∧
      body range (asUsize slotId) = some (status, next) := by
  unfold withRange at hcall
  cases hrange : service.slotRangeMap.lookup client with
  | none =>
    rw [hrange] at hcall
    cases hcall
    exact Or.inl rfl
  | some range =>
    simp only [hrange] at hcall
    split_ifs at hcall
    · exact Or.inr ⟨range, rfl, hcall⟩
    · cases hcall
      exact Or.inl rfl

theorem beginTouch_cases {x y : Int}
    (hcall : service.beginTouch emit client slotId x y = some (status, next)) :
    next = service ∨ ∃ range, service.slotRangeMap.lookup client = some range ∧
      Touches emit service client range (asUsize slotId) next := by
  rcases withRange_cases hcall with hsame | ⟨range, hrange, hbody⟩
  · exact Or.inl hsame
  · exact Or.inr ⟨range, hrange, (press_changes hbody).touches⟩

theorem endTouch_cases
    (hcall : service.endTouch emit client slotId = some (status, next)) :
    next = service ∨ ∃ range, service.slotRangeMap.lookup client = some range ∧
      Touches emit service client range (asUsize slotId) next := by
  rcases withRange_cases hcall with hsame | ⟨range, hrange, hbody⟩
  · exact Or.inl hsame
  · exact Or.inr ⟨range, hrange, (lift_changes hbody).touches⟩

/-! ## Calls -/

section

variable (hkept : Kept addSlotCount service)
include hkept

theorem Kept.touches
    (hrange : service.slotRangeMap.lookup client = some range)
    (htouches : Touches emit service client range slot next) :
    Kept addSlotCount next := by
  obtain ⟨positions, hpositions, hslot, rfl | ⟨position, hnext⟩⟩ := htouches
  · exact hkept
  · exact hkept.setPressed hrange hpositions hslot hnext

theorem Kept.beginTouch {x y : Int}
    (hcall : service.beginTouch emit client slotId x y = some (status, next)) :
    Kept addSlotCount next := by
  rcases beginTouch_cases hcall with rfl | ⟨range, hrange, htouches⟩
  · exact hkept
  · exact hkept.touches hrange htouches

theorem Kept.endTouch
    (hcall : service.endTouch emit client slotId = some (status, next)) :
    Kept addSlotCount next := by
  rcases endTouch_cases hcall with rfl | ⟨range, hrange, htouches⟩
  · exact hkept
  · exact hkept.touches hrange htouches

/-- Every call keeps the invariant while the slots suffice. -/
theorem Kept.handle {call : Call Client}
    (hcall : service.handle emit call = some (status, next))
    (hfits : next.slotCount ≤ addSlotCount) : Kept addSlotCount next := by
  cases call with
  | registerClient => exact hkept.registerClient hcall hfits
  | unregisterClient => exact hkept.unregisterClient hcall
  | beginTouch => exact hkept.beginTouch hcall
  | endTouch => exact hkept.endTouch hcall

end

theorem Touches.lookup_of_ne {other : Client}
    (htouches : Touches emit service client range slot next)
    (hother : other ≠ client) :
    next.pressedPositionMap.lookup other =
      service.pressedPositionMap.lookup other := by
  obtain ⟨positions, hpositions, -, rfl | ⟨position, hnext⟩⟩ := htouches
  · rfl
  · obtain ⟨emulator, -, rfl⟩ := Option.map_eq_some_iff.mp hnext
    calc (service.setPressed client slot position).pressedPositionMap.lookup
          other
        = Function.update service.pressedPositionMap.lookup client
            (some (positions.set slot position)) other := by
          rw [lookup_setPressed hpositions]
      _ = service.pressedPositionMap.lookup other :=
          Function.update_of_ne hother _ _

/-- No call changes the pressed entries of another client. -/
theorem lookup_handle_of_ne {call : Call Client}
    (hcall : service.handle emit call = some (status, next)) {other : Client}
    (hother : other ≠ call.client) :
    next.pressedPositionMap.lookup other =
      service.pressedPositionMap.lookup other := by
  cases call with
  | registerClient =>
    rcases registerClient_cases hcall with rfl | ⟨_, _, _, _, _, hnext⟩
    · rfl
    · rw [(enableAllTouches_frame hnext).2.2, enter, OrderedMap.lookup_insert]
      exact Function.update_of_ne hother _ _
  | unregisterClient =>
    rcases unregisterClient_cases hcall with rfl | ⟨_, _, hnext⟩
    · rfl
    · rw [(enableAllTouches_frame hnext).2.2, leave, OrderedMap.lookup_erase]
      exact Function.update_of_ne hother _ _
  | beginTouch =>
    rcases beginTouch_cases hcall with rfl | ⟨range, -, htouches⟩
    · rfl
    · exact htouches.lookup_of_ne hother
  | endTouch =>
    rcases endTouch_cases hcall with rfl | ⟨range, -, htouches⟩
    · rfl
    · exact htouches.lookup_of_ne hother

/-! ## Runs of calls -/

/-- The other clients keep their pressed entries, and their slots are active
as before under their new numbers. -/
structure OthersKept (client : Client)
    (service next : TouchInjectorService Client) : Prop where
  entries : ∀ other, other ≠ client →
    next.pressedPositionMap.lookup other =
      service.pressedPositionMap.lookup other
  slots : ∀ other range, other ≠ client →
    service.slotRangeMap.lookup other = some range →
      ∃ range', next.slotRangeMap.lookup other = some range' ∧
        range'.len = range.len ∧ ∀ index, index < range.len →
          (next.touchEmulator.slotStates[range'.start + index]? = some true ↔
            service.touchEmulator.slotStates[range.start + index]? = some true)

/-- A slot of a client is active when the entry of it is pressed. -/
theorem Consistent.active_iff_pressedAt (hconsistent : Consistent service)
    (hrange : service.slotRangeMap.lookup client = some range)
    (hindex : index < range.len) :
    service.touchEmulator.slotStates[range.start + index]? = some true ↔
      service.PressedAt client index := by
  rw [hconsistent.active]
  constructor
  · rintro ⟨other, range', index', hrange', hentry, hslot⟩
    obtain ⟨rfl, rfl⟩ := slot_inj hconsistent.laid hrange hrange' hindex
      (hentry.lt hconsistent.matched hrange') hslot
    exact hentry
  · intro hentry
    exact ⟨client, range, index, hrange, hentry, rfl⟩

theorem othersKept_of_entries (hconsistent : Consistent service)
    (hconsistent' : Consistent next)
    (hentries : ∀ other, other ≠ client →
      next.pressedPositionMap.lookup other =
        service.pressedPositionMap.lookup other) :
    OthersKept client service next where
  entries := hentries
  slots := by
    intro other range hother hrange
    have hsome : (next.slotRangeMap.lookup other).isSome := by
      rw [← hconsistent'.matched.registered, hentries other hother,
        hconsistent.matched.registered, hrange]
      rfl
    obtain ⟨range', hrange'⟩ := Option.isSome_iff_exists.mp hsome
    have hpressed : (service.pressedPositionMap.lookup other).isSome := by
      rw [hconsistent.matched.registered, hrange]
      rfl
    obtain ⟨positions, hpositions⟩ := Option.isSome_iff_exists.mp hpressed
    have hpositions' := (hentries other hother).trans hpositions
    have hlen : range'.len = range.len := by
      rw [← hconsistent.matched.lengths other range positions hrange hpositions]
      exact (hconsistent'.matched.lengths other range' positions hrange'
        hpositions').symm
    refine ⟨range', hrange', hlen, fun index hindex => ?_⟩
    rw [hconsistent'.active_iff_pressedAt hrange' (hlen ▸ hindex),
      hconsistent.active_iff_pressedAt hrange hindex, PressedAt, PressedAt,
      hentries other hother]

theorem step_eq_some {label : Emit × Call Client}
    (hstep : step service label = some next) :
    ∃ status, service.handle label.1 label.2 = some (status, next) := by
  obtain ⟨⟨status, last⟩, hcall, rfl⟩ := Option.map_eq_some_iff.mp hstep
  exact ⟨status, hcall⟩

/-- The call keeps the touches of all clients but its own. -/
def DisturbsNoOther (service : TouchInjectorService Client)
    (label : Emit × Call Client) : Prop :=
  ∀ next, step service label = some next →
    OthersKept label.2.client service next

/-- However the calls follow each other, the ranges tile the slots, the pressed
entries belong to them, and the emulator touches the pressed ones; no call
disturbs the touches of another client. -/
theorem consistent_while_slots_suffice (addSlotCount : Nat)
    (labels : List (Emit × Call Client))
    (hfits : RunHolds step (fun service : TouchInjectorService Client =>
      service.slotCount ≤ addSlotCount) (new addSlotCount) labels) :
    RunHolds step Consistent
        (new addSlotCount : TouchInjectorService Client) labels ∧
      RunMeets step DisturbsNoOther
        (new addSlotCount : TouchInjectorService Client) labels := by
  have hkept : RunHolds step (Kept addSlotCount)
      (new addSlotCount : TouchInjectorService Client) labels := by
    apply hfits.invariant _ (kept_new addSlotCount)
    intro service label next hkept hstep hfits
    obtain ⟨status, hcall⟩ := step_eq_some hstep
    exact hkept.handle hcall hfits
  constructor
  · exact hkept.imp fun service => Kept.toConsistent
  · apply hkept.runMeets
    intro service label next hkept hstep hkept' next' hstep'
    cases hstep.symm.trans hstep'
    obtain ⟨status, hcall⟩ := step_eq_some hstep
    exact othersKept_of_entries hkept.toConsistent hkept'.toConsistent
      fun other => lookup_handle_of_ne hcall

/-- Client 2 has touches on both of its slots when client 1, which registered
first, leaves. -/
def leavingCalls : List (Emit × Call Nat) :=
  [(fun _ => true, .registerClient 1 (some 3)),
    (fun _ => false, .registerClient 2 (some 2)),
    (fun _ => true, .beginTouch 2 0 10 20),
    (fun _ => true, .beginTouch 2 1 30 40),
    (fun _ => false, .beginTouch 1 2 50 60),
    (fun _ => true, .unregisterClient 1)]

theorem consistent_when_first_client_leaves :
    (run step (new 8) leavingCalls).isSome = true ∧
      RunHolds step Consistent (new 8) leavingCalls ∧
      RunMeets step DisturbsNoOther (new 8) leavingCalls :=
  ⟨by decide +kernel,
    consistent_while_slots_suffice 8 leavingCalls (by decide +kernel)⟩

end TouchInjectorService

end HardwareInterfaces.TouchInjector

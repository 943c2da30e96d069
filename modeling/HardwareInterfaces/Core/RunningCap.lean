import HardwareInterfaces.Core.Maximum

/-!
# Bounds with a running cap

A loop narrows a floor and a ceiling by the items of a list.  Each item raises
the floor to its floors and lowers the ceiling to its ceilings; this part does
not depend on the order of the items.  A capped item also lowers the ceiling to
a function of the floor reached so far, and that may depend on the order.

The order is irrelevant exactly when no order leaves another ceiling than one in
which the final floor is reached first: no capped item that comes right after
another one caps the ceiling lower, and an item whose floor is at or above those
of the capped items does not make them all cap it higher.
-/

namespace HardwareInterfaces.RunningCap

open Maximum

variable {Value : Type*} [LinearOrder Value]

/-! ## The loop -/

structure Item (Value : Type*) where
  floors : List Value
  ceilings : List Value
  capped : Bool

structure Bounds (Value : Type*) where
  floor : Value
  ceiling : Value

/-- The floor that an item reaches on its own. -/
def ownFloor (start : Bounds Value) (item : Item Value) : Value :=
  item.floors.foldl max start.floor

variable (cap : Value → Value)

def narrow (bounds : Bounds Value) (item : Item Value) : Bounds Value where
  floor := ownFloor bounds item
  ceiling :=
    if item.capped then
      min (item.ceilings.foldl min bounds.ceiling) (cap (ownFloor bounds item))
    else item.ceilings.foldl min bounds.ceiling

def narrowAll (start : Bounds Value) (items : List (Item Value)) :
    Bounds Value :=
  items.foldl (narrow cap) start

/-- The floor that the items reach together. -/
def floorOf (start : Bounds Value) (items : List (Item Value)) : Value :=
  (items.flatMap Item.floors).foldl max start.floor

/-- The ceiling that the items would leave without the caps. -/
def uncapped (start : Bounds Value) (items : List (Item Value)) : Value :=
  (items.flatMap Item.ceilings).foldl min start.ceiling

/-- The ceiling that is left if the final floor is reached before any cap. -/
def cappedLast (start : Bounds Value) (items : List (Item Value)) : Value :=
  min (uncapped start items) (cap (floorOf start items))

/-- No two items can lower the ceiling further, and none can keep it up. -/
def CapsAgree (start : Bounds Value) (items : List (Item Value)) : Prop :=
  ∀ item ∈ items, item.capped = true →
    (∀ other ∈ items, cappedLast cap start items ≤
      cap (max (ownFloor start item) (ownFloor start other))) ∧
    ∀ other ∈ items,
      (∀ capped ∈ items, capped.capped = true →
        ownFloor start capped ≤ ownFloor start other) →
      min (uncapped start items) (cap (ownFloor start other)) ≤
        cap (floorOf start items)

instance (start : Bounds Value) (items : List (Item Value)) :
    Decidable (CapsAgree cap start items) :=
  inferInstanceAs (Decidable (∀ item ∈ items, _))

variable {cap} {start : Bounds Value} {items : List (Item Value)}

section

variable (start : Bounds Value) (items : List (Item Value))

theorem floor_narrowAll :
    (narrowAll cap start items).floor = floorOf start items := by
  rw [narrowAll, floorOf]
  induction items generalizing start with
  | nil => rfl
  | cons item rest ih =>
    rw [List.foldl_cons, ih, List.flatMap_cons, List.foldl_append]
    rfl

theorem le_uncapped_iff (bound : Value) :
    bound ≤ uncapped start items ↔
      bound ≤ start.ceiling ∧
        ∀ item ∈ items, ∀ value ∈ item.ceilings, bound ≤ value := by
  rw [uncapped, le_foldl_min_iff, List.forall_mem_flatMap]

theorem floorOf_le_iff (bound : Value) :
    floorOf start items ≤ bound ↔
      start.floor ≤ bound ∧
        ∀ item ∈ items, ∀ value ∈ item.floors, value ≤ bound := by
  rw [floorOf, foldl_max_le_iff, List.forall_mem_flatMap]

end

variable (cap start) in
theorem floorOf_cons (first : Item Value) (rest : List (Item Value)) :
    floorOf start (first :: rest) = floorOf (narrow cap start first) rest := by
  rw [floorOf, List.flatMap_cons, List.foldl_append]
  rfl

variable {item : Item Value}

theorem ownFloor_le (hitem : item ∈ items) :
    ownFloor start item ≤ floorOf start items := by
  obtain ⟨hstart, hfloors⟩ := (floorOf_le_iff start items _).mp (le_refl _)
  exact (foldl_max_le_iff _ _ _).mpr ⟨hstart, hfloors item hitem⟩

/-- Some item reaches the floor of all of them on its own. -/
theorem exists_ownFloor_eq (start : Bounds Value) (hitem : item ∈ items) :
    ∃ other ∈ items, ownFloor start other = floorOf start items := by
  by_cases hlt : start.floor < floorOf start items
  · obtain ⟨other, hother, hvalue⟩ := List.mem_flatMap.mp (foldl_max_mem hlt)
    refine ⟨other, hother, le_antisymm (ownFloor_le hother) ?_⟩
    exact ((foldl_max_le_iff other.floors start.floor _).mp (le_refl _)).2 _
      hvalue
  · refine ⟨item, hitem, le_antisymm (ownFloor_le hitem) ?_⟩
    exact (not_lt.mp hlt).trans
      ((foldl_max_le_iff item.floors start.floor _).mp (le_refl _)).1

/-- The final ceiling lies below the uncapped one and below each cap, taken at
the floor that its item reaches with those before it. -/
theorem le_ceiling_iff (bound : Value) :
    bound ≤ (narrowAll cap start items).ceiling ↔
      bound ≤ uncapped start items ∧
        ∀ before item after, items = before ++ item :: after →
          item.capped = true →
            bound ≤ cap (floorOf start (before ++ [item])) := by
  rw [le_uncapped_iff, narrowAll]
  induction items generalizing start with
  | nil => simp
  | cons first rest ih =>
    have hfirst : bound ≤ (narrow cap start first).ceiling ↔
        (bound ≤ start.ceiling ∧ ∀ value ∈ first.ceilings, bound ≤ value) ∧
          (first.capped = true → bound ≤ cap (ownFloor start first)) := by
      rw [narrow]
      cases first.capped <;> simp [le_foldl_min_iff]
    have hown : floorOf start [first] = ownFloor start first := by
      simp [floorOf, ownFloor]
    rw [List.foldl_cons, ih, List.forall_mem_cons, hfirst]
    constructor
    · rintro ⟨⟨⟨⟨hstart, hceilings⟩, hcap⟩, hrest⟩, hcaps⟩
      refine ⟨⟨hstart, hceilings, hrest⟩, fun before item after hsplit hthis => ?_⟩
      cases before with
      | nil =>
        cases hsplit
        exact (hcap hthis).trans_eq (congrArg cap hown.symm)
      | cons head before =>
        cases hsplit
        rw [List.cons_append, floorOf_cons cap]
        exact hcaps before item after rfl hthis
    · rintro ⟨⟨hstart, hceilings, hrest⟩, hcaps⟩
      refine ⟨⟨⟨⟨hstart, hceilings⟩, fun hthis => ?_⟩, hrest⟩,
        fun before item after hsplit hthis => ?_⟩
      · exact (hcaps [] first rest rfl hthis).trans_eq (congrArg cap hown)
      · rw [← floorOf_cons]
        exact hcaps (first :: before) item after (congrArg _ hsplit) hthis

/-- Without capped items the loop only folds the floors and the ceilings. -/
theorem ceiling_of_none_capped
    (hnone : ∀ item ∈ items, item.capped = false) :
    (narrowAll cap start items).ceiling = uncapped start items := by
  apply eq_of_forall_le_iff
  intro bound
  refine (le_ceiling_iff bound).trans (and_iff_left ?_)
  rintro before item after rfl hcapped
  rw [hnone item (by simp)] at hcapped
  cases hcapped

omit [LinearOrder Value] in
theorem exists_last_capped (hsome : ∃ item ∈ items, item.capped = true) :
    ∃ before item after, items = before ++ item :: after ∧
      item.capped = true ∧ ∀ later ∈ after, later.capped = false := by
  induction items with
  | nil => simp at hsome
  | cons first rest ih =>
    by_cases hrest : ∃ item ∈ rest, item.capped = true
    · obtain ⟨before, item, after, rfl, hcapped, hlast⟩ := ih hrest
      exact ⟨first :: before, item, after, rfl, hcapped, hlast⟩
    · obtain ⟨item, hitem, hcapped⟩ := hsome
      rcases List.mem_cons.mp hitem with rfl | hitem
      · refine ⟨[], item, rest, rfl, hcapped, fun later hlater => ?_⟩
        exact Bool.eq_false_iff.mpr fun hother => hrest ⟨later, hlater, hother⟩
      · exact absurd ⟨item, hitem, hcapped⟩ hrest

/-- If the caps agree, all of them together act as one cap at the final
floor. -/
theorem ceiling_of_capsAgree (hagree : CapsAgree cap start items)
    (hsome : ∃ item ∈ items, item.capped = true) :
    (narrowAll cap start items).ceiling = cappedLast cap start items := by
  apply le_antisymm
  · obtain ⟨before, item, after, rfl, hcapped, hlast⟩ :=
      exists_last_capped hsome
    obtain ⟨hle, hcaps⟩ := (le_ceiling_iff _).mp
      (le_refl (narrowAll cap start (before ++ item :: after)).ceiling)
    have hmem : item ∈ before ++ [item] := by simp
    obtain ⟨other, hother, hown⟩ := exists_ownFloor_eq start hmem
    have hgreatest : ∀ capped ∈ before ++ item :: after,
        capped.capped = true → ownFloor start capped ≤ ownFloor start other := by
      intro capped hitem hthis
      rw [hown]
      apply ownFloor_le
      rw [List.append_cons] at hitem
      refine (List.mem_append.mp hitem).resolve_right fun hafter => ?_
      rw [hlast capped hafter] at hthis
      cases hthis
    have hsub : other ∈ before ++ item :: after := by
      rw [List.append_cons]
      exact List.mem_append_left after hother
    have hcap := hcaps before item after rfl hcapped
    rw [← hown] at hcap
    exact le_min hle ((le_min hle hcap).trans
      ((hagree item (by simp) hcapped).2 other hsub hgreatest))
  · refine (le_ceiling_iff _).mpr ⟨min_le_left _ _, ?_⟩
    rintro before item after rfl hcapped
    have hmem : item ∈ before ++ [item] := by simp
    obtain ⟨other, hother, hown⟩ := exists_ownFloor_eq start hmem
    have hmax : max (ownFloor start item) (ownFloor start other) =
        floorOf start (before ++ [item]) := by
      rw [hown]
      exact max_eq_right (ownFloor_le hmem)
    rw [← hmax]
    apply (hagree item (by simp) hcapped).1
    rw [List.append_cons]
    exact List.mem_append_left after hother

/-! ## Chosen orders -/

section Front

variable {lead : Item Value} {middle rest before after : List (Item Value)}

/-- As long as the items behind the first one do not exceed its floor, the floor
stays there. -/
theorem floorOf_front
    (hsplit : lead :: (middle ++ rest) = before ++ item :: after)
    (hnot : item ∉ rest)
    (hbelow : ∀ other ∈ middle, ownFloor start other ≤ ownFloor start lead) :
    floorOf start (before ++ [item]) = ownFloor start lead := by
  have hlead : lead ∈ before ++ [item] := by
    cases before with
    | nil => simp [(List.cons.inj hsplit).1]
    | cons first before => simp [(List.cons.inj hsplit).1]
  have hfront : before ++ [item] ⊆ lead :: middle := by
    rw [← List.cons_append, List.append_eq_append_iff] at hsplit
    rcases hsplit with ⟨extra, rfl, hrest⟩ | ⟨extra, hfront, hrest⟩
    · exact absurd (by rw [hrest]; simp) hnot
    · cases extra with
      | nil => exact absurd (by rw [← List.nil_append rest, ← hrest]; simp) hnot
      | cons head extra =>
        cases hrest
        rw [hfront]
        simp
  obtain ⟨other, hother, hown⟩ := exists_ownFloor_eq start hlead
  refine le_antisymm ?_ (ownFloor_le hlead)
  rw [← hown]
  rcases List.mem_cons.mp (hfront hother) with rfl | hmiddle
  · exact le_refl _
  · exact hbelow other hmiddle

/-- After a head that reaches the final floor every cap is the cap of the final
floor. -/
theorem ceiling_of_head (hreach : ownFloor start lead = floorOf start
      (lead :: rest)) (hsome : ∃ item ∈ lead :: rest, item.capped = true) :
    (narrowAll cap start (lead :: rest)).ceiling =
      cappedLast cap start (lead :: rest) := by
  have hfloor : ∀ before item after, lead :: rest = before ++ item :: after →
      floorOf start (before ++ [item]) = floorOf start (lead :: rest) := by
    intro before item after hsplit
    rw [← hreach]
    refine @floorOf_front _ _ _ _ _ rest [] _ after (by simpa using hsplit)
      List.not_mem_nil fun other hother => ?_
    rw [hreach]
    exact ownFloor_le (List.mem_cons_of_mem lead hother)
  apply le_antisymm
  · obtain ⟨item, hitem, hcapped⟩ := hsome
    obtain ⟨before, after, hsplit⟩ := List.append_of_mem hitem
    obtain ⟨hle, hcaps⟩ := (le_ceiling_iff _).mp
      (le_refl (narrowAll cap start (lead :: rest)).ceiling)
    have hcap := hcaps before item after hsplit hcapped
    rw [hfloor before item after hsplit] at hcap
    exact le_min hle hcap
  · refine (le_ceiling_iff _).mpr ⟨min_le_left _ _, ?_⟩
    intro before item after hsplit _
    rw [hfloor before item after hsplit]
    exact min_le_right _ _

end Front

/-! ## Independence of the order -/

/-- The same bounds up to order and repetition, and both capped or not. -/
structure Item.Same (left right : Item Value) : Prop where
  floors : ∀ value, value ∈ left.floors ↔ value ∈ right.floors
  ceilings : ∀ value, value ∈ left.ceilings ↔ value ∈ right.ceilings
  capped : left.capped = right.capped

/-- The two lists have the same items, in any order and any number. -/
structure SameItems (left right : List (Item Value)) : Prop where
  forward : ∀ item ∈ left, ∃ other ∈ right, item.Same other
  backward : ∀ item ∈ right, ∃ other ∈ left, other.Same item

section Reordering

variable {left right : List (Item Value)}

theorem Item.Same.ownFloor_eq {item other : Item Value} (hsame : item.Same other)
    (start : Bounds Value) : ownFloor start item = ownFloor start other :=
  foldl_max_congr hsame.floors start.floor

namespace SameItems

variable (hsame : SameItems left right)
include hsame

omit [LinearOrder Value] in
theorem mem_flatMap_iff {bounds : Item Value → List Value} {value : Value}
    (hbounds : ∀ {item other}, Item.Same item other →
      (value ∈ bounds item ↔ value ∈ bounds other)) :
    value ∈ left.flatMap bounds ↔ value ∈ right.flatMap bounds := by
  simp only [List.mem_flatMap]
  constructor
  · rintro ⟨item, hitem, hvalue⟩
    obtain ⟨other, hother, hitems⟩ := hsame.forward item hitem
    exact ⟨other, hother, (hbounds hitems).mp hvalue⟩
  · rintro ⟨item, hitem, hvalue⟩
    obtain ⟨other, hother, hitems⟩ := hsame.backward item hitem
    exact ⟨other, hother, (hbounds hitems).mpr hvalue⟩

theorem floorOf_eq (start : Bounds Value) :
    floorOf start left = floorOf start right := by
  apply foldl_max_congr
  intro value
  exact hsame.mem_flatMap_iff fun hitems => hitems.floors value

theorem uncapped_eq (start : Bounds Value) :
    uncapped start left = uncapped start right := by
  apply foldl_min_congr
  intro value
  exact hsame.mem_flatMap_iff fun hitems => hitems.ceilings value

theorem cappedLast_eq (start : Bounds Value) :
    cappedLast cap start left = cappedLast cap start right := by
  rw [cappedLast, cappedLast, hsame.floorOf_eq, hsame.uncapped_eq]

theorem capsAgree (hagree : CapsAgree cap start left) :
    CapsAgree cap start right := by
  intro item hitem hcapped
  obtain ⟨same, hmem, hitems⟩ := hsame.backward item hitem
  rw [← hsame.floorOf_eq, ← hsame.uncapped_eq, ← hsame.cappedLast_eq,
    ← hitems.ownFloor_eq]
  obtain ⟨hlow, hhigh⟩ := hagree same hmem (hitems.capped.trans hcapped)
  constructor
  · intro other hother
    obtain ⟨found, hfound, hothers⟩ := hsame.backward other hother
    rw [← hothers.ownFloor_eq]
    exact hlow found hfound
  · intro other hother hgreatest
    obtain ⟨found, hfound, hothers⟩ := hsame.backward other hother
    rw [← hothers.ownFloor_eq] at hgreatest ⊢
    refine hhigh found hfound fun capped hmem hthis => ?_
    obtain ⟨kept, hkept, hcaps⟩ := hsame.forward capped hmem
    rw [hcaps.ownFloor_eq]
    exact hgreatest kept hkept (hcaps.capped.symm.trans hthis)

omit [LinearOrder Value] in
theorem exists_capped (hsome : ∃ item ∈ left, item.capped = true) :
    ∃ item ∈ right, item.capped = true := by
  obtain ⟨item, hitem, hcapped⟩ := hsome
  obtain ⟨other, hother, hitems⟩ := hsame.forward item hitem
  exact ⟨other, hother, hitems.capped.symm.trans hcapped⟩

/-- If the caps agree, the same items give the same bounds. -/
theorem narrowAll_eq (hagree : CapsAgree cap start left) :
    narrowAll cap start left = narrowAll cap start right := by
  have hfloor : (narrowAll cap start left).floor =
      (narrowAll cap start right).floor := by
    rw [floor_narrowAll, floor_narrowAll, hsame.floorOf_eq]
  have hceiling : (narrowAll cap start left).ceiling =
      (narrowAll cap start right).ceiling := by
    by_cases hsome : ∃ item ∈ left, item.capped = true
    · rw [ceiling_of_capsAgree hagree hsome, ceiling_of_capsAgree
        (hsame.capsAgree hagree) (hsame.exists_capped hsome),
        hsame.cappedLast_eq]
    · have hnone : ∀ item ∈ left, item.capped = false := fun item hitem =>
        Bool.eq_false_iff.mpr fun hcapped => hsome ⟨item, hitem, hcapped⟩
      rw [ceiling_of_none_capped hnone, ceiling_of_none_capped, hsame.uncapped_eq]
      intro item hitem
      obtain ⟨other, hother, hitems⟩ := hsame.backward item hitem
      exact hitems.capped.symm.trans (hnone other hother)
  calc narrowAll cap start left
      = ⟨(narrowAll cap start left).floor,
          (narrowAll cap start left).ceiling⟩ := rfl
    _ = narrowAll cap start right := by rw [hfloor, hceiling]

end SameItems

/-- An order begins with an item, goes on with items that are kept in front and
ends with the others. -/
def Leads (keep : Item Value → Prop) (lead : Item Value)
    (order : List (Item Value)) : Prop :=
  ∃ middle rest, order = lead :: (middle ++ rest) ∧
    (∀ item ∈ middle, item = lead ∨ keep item) ∧ ∀ item ∈ rest, ¬ keep item

/-- An order with a capped item right behind the first one. -/
theorem ceiling_le_of_leads {lead item : Item Value}
    {order : List (Item Value)} (hsame : SameItems items order)
    (hitem : item ∈ items) (hcapped : item.capped = true)
    (hle : ownFloor start item ≤ ownFloor start lead)
    (hleads : Leads (fun other => other.capped = true ∧
      ownFloor start other = ownFloor start item) lead order) :
    (narrowAll cap start order).ceiling ≤ cap (ownFloor start lead) := by
  obtain ⟨middle, rest, rfl, hmiddle, hrest⟩ := hleads
  obtain ⟨found, hfound, hitems⟩ := hsame.forward item hitem
  have hkeep : found.capped = true ∧
      ownFloor start found = ownFloor start item :=
    ⟨hitems.capped.symm.trans hcapped, (hitems.ownFloor_eq start).symm⟩
  obtain ⟨before, after, hsplit⟩ := List.append_of_mem hfound
  have hcap := ((le_ceiling_iff _).mp (le_refl (narrowAll cap start
    (lead :: (middle ++ rest))).ceiling)).2 before found after hsplit hkeep.1
  rwa [floorOf_front hsplit fun hout => hrest found hout hkeep] at hcap
  intro other hother
  rcases hmiddle other hother with rfl | hsimilar
  · exact le_refl _
  · exact hsimilar.2.trans_le hle

/-- An order with all capped items right behind one that reaches at least their
floors. -/
theorem le_ceiling_of_leads {lead : Item Value} {order : List (Item Value)}
    (hsame : SameItems items order)
    (hgreatest : ∀ capped ∈ items, capped.capped = true →
      ownFloor start capped ≤ ownFloor start lead)
    (hleads : Leads (fun other => other.capped = true) lead order) :
    min (uncapped start items) (cap (ownFloor start lead)) ≤
      (narrowAll cap start order).ceiling := by
  obtain ⟨middle, rest, rfl, hmiddle, hrest⟩ := hleads
  rw [hsame.uncapped_eq, le_ceiling_iff]
  refine ⟨min_le_left _ _, fun before item after hsplit hcapped => ?_⟩
  rw [floorOf_front hsplit fun hout => hrest item hout hcapped]
  · exact min_le_right _ _
  · intro other hother
    rcases hmiddle other hother with rfl | hthis
    · exact le_refl _
    · obtain ⟨found, hfound, hitems⟩ := hsame.backward other
        (List.mem_cons_of_mem lead (List.mem_append_left rest hother))
      rw [← hitems.ownFloor_eq]
      exact hgreatest found hfound (hitems.capped.trans hthis)

/-- If the caps do not agree, two orders leave different ceilings. -/
theorem exists_orders_of_not_capsAgree
    (hdisagree : ¬ CapsAgree cap start items) :
    ∃ late ∈ items, ∃ lead ∈ items, ∃ keep, ∀ first second,
      SameItems items (late :: first) → SameItems items second →
        Leads keep lead second →
          (narrowAll cap start (late :: first)).ceiling ≠
            (narrowAll cap start second).ceiling := by
  simp only [CapsAgree, not_forall, not_and_or] at hdisagree
  obtain ⟨item, hitem, hcapped, hdisagree⟩ := hdisagree
  obtain ⟨late, hlate, hreach⟩ := exists_ownFloor_eq start hitem
  have hlast : ∀ first, SameItems items (late :: first) →
      (narrowAll cap start (late :: first)).ceiling =
        cappedLast cap start items := by
    intro first hfirst
    rw [hfirst.cappedLast_eq]
    exact ceiling_of_head (hreach.trans (hfirst.floorOf_eq start))
      (hfirst.exists_capped ⟨item, hitem, hcapped⟩)
  refine ⟨late, hlate, ?_⟩
  rcases hdisagree with ⟨other, hother, hbelow⟩ | ⟨other, hother, hgreatest, habove⟩
  · -- The capped item follows the other one, or leads if it has the larger floor.
    obtain ⟨lead, hlead, hle, hmax⟩ : ∃ lead ∈ items,
        ownFloor start item ≤ ownFloor start lead ∧
          max (ownFloor start item) (ownFloor start other) =
            ownFloor start lead := by
      rcases le_total (ownFloor start item) (ownFloor start other) with hle | hle
      · exact ⟨other, hother, hle, max_eq_right hle⟩
      · exact ⟨item, hitem, le_refl _, max_eq_left hle⟩
    refine ⟨lead, hlead, _, fun first second hfirst hsecond
      (hleads : Leads (fun other => other.capped = true ∧
        ownFloor start other = ownFloor start item) lead second) => ?_⟩
    rw [hmax, not_le, ← hlast first hfirst] at hbelow
    exact ((ceiling_le_of_leads hsecond hitem hcapped hle hleads).trans_lt
      hbelow).ne'
  · refine ⟨other, hother, _, fun first second hfirst hsecond
      (hleads : Leads (fun other => other.capped = true) other second) => ?_⟩
    rw [hlast first hfirst]
    rw [not_le] at habove
    exact ((min_le_right _ _).trans_lt (habove.trans_le
      (le_ceiling_of_leads hsecond hgreatest hleads))).ne

end Reordering

end HardwareInterfaces.RunningCap

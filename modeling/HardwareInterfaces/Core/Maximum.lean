import Mathlib

/-!
# Maxima of partial families

A loop whose steps never lower a measure ends at or above what any of its items
brings in.  A loop that keeps the larger of the value so far and the next one
computes the greatest element of a family.  When the maximum has been taken
over more members than it should have been, it is still right exactly if each
superfluous member is dominated by one of the others.
-/

namespace HardwareInterfaces.Maximum

variable {Index Value : Type*} [LinearOrder Value]

/-! ## Loops that never lower a measure -/

section Inflationary

variable {State Item Measure : Type*} [Preorder Measure]
variable {step : State → Item → State} {measure : State → Measure}

theorem measure_le_foldl
    (hstep : ∀ state item, measure state ≤ measure (step state item))
    (items : List Item) (start : State) :
    measure start ≤ measure (items.foldl step start) := by
  induction items generalizing start with
  | nil => exact le_refl _
  | cons item rest ih => exact (hstep start item).trans (ih (step start item))

theorem le_measure_foldl_of_mem {bound : Measure} {item : Item}
    {items : List Item}
    (hstep : ∀ state item, measure state ≤ measure (step state item))
    (hbound : ∀ state, bound ≤ measure (step state item))
    (hmem : item ∈ items) (start : State) :
    bound ≤ measure (items.foldl step start) := by
  induction items generalizing start with
  | nil => cases hmem
  | cons first rest ih =>
    rcases List.mem_cons.mp hmem with rfl | hrest
    · exact (hbound start).trans (measure_le_foldl hstep rest _)
    · exact ih hrest (step start first)

end Inflationary

/-! ## Maxima and minima -/

theorem foldl_max_le_iff (values : List Value) (start bound : Value) :
    values.foldl max start ≤ bound ↔
      start ≤ bound ∧ ∀ value ∈ values, value ≤ bound := by
  induction values generalizing start with
  | nil => simp
  | cons value rest ih =>
    rw [List.foldl_cons, ih, max_le_iff, List.forall_mem_cons, and_assoc]

theorem le_foldl_min_iff (values : List Value) (start bound : Value) :
    bound ≤ values.foldl min start ↔
      bound ≤ start ∧ ∀ value ∈ values, bound ≤ value := by
  induction values generalizing start with
  | nil => simp
  | cons value rest ih =>
    rw [List.foldl_cons, ih, le_min_iff, List.forall_mem_cons, and_assoc]

/-- A maximum above its start is one of the values. -/
theorem foldl_max_mem {values : List Value} {start : Value}
    (hlt : start < values.foldl max start) :
    values.foldl max start ∈ values := by
  induction values generalizing start with
  | nil => exact absurd hlt (lt_irrefl _)
  | cons value rest ih =>
    rw [List.foldl_cons] at hlt ⊢
    by_cases hstep : max start value < rest.foldl max (max start value)
    · exact List.mem_cons_of_mem value (ih hstep)
    · have hle := ((foldl_max_le_iff rest (max start value) _).mp (le_refl _)).1
      have heq := le_antisymm (not_lt.mp hstep) hle
      rw [heq] at hlt ⊢
      rw [max_eq_right (le_of_lt ((lt_max_iff.mp hlt).resolve_left
        (lt_irrefl _)))]
      exact List.mem_cons_self

section

variable {left right : List Value}
  (hmem : ∀ value, value ∈ left ↔ value ∈ right) (start : Value)
include hmem

theorem foldl_max_congr : left.foldl max start = right.foldl max start := by
  apply eq_of_forall_ge_iff
  intro bound
  simp only [foldl_max_le_iff, hmem]

theorem foldl_min_congr : left.foldl min start = right.foldl min start := by
  apply eq_of_forall_le_iff
  intro bound
  simp only [le_foldl_min_iff, hmem]

end

theorem isGreatest_foldl_max (items : List Index) (value : Index → Value)
    (start : Value) :
    IsGreatest (insert start (Set.image value {item | item ∈ items}))
      (items.foldl (fun largest item => max largest (value item)) start) := by
  induction items generalizing start with
  | nil => simp [IsGreatest]
  | cons item rest ih =>
    obtain ⟨hmem, hupper⟩ := ih (max start (value item))
    rw [List.foldl_cons]
    constructor
    · rcases Set.mem_insert_iff.mp hmem with hstart | ⟨other, hother, hvalue⟩
      · rw [hstart]
        rcases le_total start (value item) with hle | hle
        · rw [max_eq_right hle]
          exact Or.inr ⟨item, List.mem_cons_self, rfl⟩
        · rw [max_eq_left hle]
          exact Or.inl rfl
      · exact Or.inr ⟨other, List.mem_cons_of_mem item hother, hvalue⟩
    · have hmax := hupper (Set.mem_insert (max start (value item)) _)
      intro candidate hcandidate
      rcases Set.mem_insert_iff.mp hcandidate with rfl | ⟨other, hother, rfl⟩
      · exact (le_max_left _ _).trans hmax
      · rcases List.mem_cons.mp hother with rfl | hother
        · exact (le_max_right _ _).trans hmax
        · exact hupper (Or.inr ⟨other, hother, rfl⟩)

/-- The greatest element of a family is the greatest of a part of it exactly
when every member left out is at most some member of the part. -/
theorem isGreatest_part_iff {whole part : Set Value} {greatest : Value}
    (hgreatest : IsGreatest whole greatest) (hpart : part ⊆ whole) :
    IsGreatest part greatest ↔
      ∀ excluded ∈ whole, excluded ∉ part → ∃ kept ∈ part, excluded ≤ kept := by
  constructor
  · intro hkept excluded hexcluded _
    exact ⟨greatest, hkept.1, hgreatest.2 hexcluded⟩
  · intro hdominated
    refine ⟨?_, fun member hmember => hgreatest.2 (hpart hmember)⟩
    by_contra hout
    obtain ⟨kept, hkept, hle⟩ := hdominated greatest hgreatest.1 hout
    have hsame : greatest = kept := le_antisymm hle (hgreatest.2 (hpart hkept))
    exact hout (hsame ▸ hkept)

end HardwareInterfaces.Maximum

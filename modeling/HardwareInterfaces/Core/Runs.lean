import Mathlib

/-!
# Runs of related items

A list is split into runs by a relation between neighbours.  When an item is
related to the same items as the one before it in its run, the run is what the
first item is related to without a break.
-/

namespace HardwareInterfaces.Runs

variable {Item : Type*} {continues : Item → Item → Bool}

theorem drop_length_takeWhile (test : Item → Bool) (items : List Item) :
    items.drop (items.takeWhile test).length = items.dropWhile test := by
  calc items.drop (items.takeWhile test).length
      = (items.takeWhile test ++ items.dropWhile test).drop
          (items.takeWhile test).length := by
        rw [List.takeWhile_append_dropWhile]
    _ = items.dropWhile test := List.drop_left

/-- Neighbours in a run are continued by the same items. -/
def Uniform (continues : Item → Item → Bool) : Prop :=
  ∀ first second, continues first second = true →
    continues second = continues first

theorem isChain_cons_takeWhile (huniform : Uniform continues) (first : Item)
    (rest : List Item) :
    (first :: rest.takeWhile (continues first)).IsChain
      fun left right => continues left right = true := by
  apply List.Pairwise.isChain
  have hfirst : ∀ item ∈ rest.takeWhile (continues first),
      continues first item = true := fun item hitem =>
    List.mem_takeWhile_imp hitem
  refine List.pairwise_cons.mpr ⟨hfirst, ?_⟩
  apply List.pairwise_of_forall_mem_list
  intro left hleft right hright
  rw [huniform first left (hfirst left hleft)]
  exact hfirst right hright

/-- Every item of a run continues its first. -/
theorem continues_of_isChain (huniform : Uniform continues) {first : Item}
    {rest : List Item}
    (hchain : (first :: rest).IsChain
      fun left right => continues left right = true) :
    ∀ item ∈ rest, continues first item = true := by
  induction rest generalizing first with
  | nil => exact fun item hitem => absurd hitem List.not_mem_nil
  | cons second rest ih =>
    obtain ⟨hsecond, hrest⟩ := List.isChain_cons_cons.mp hchain
    refine List.forall_mem_cons.mpr ⟨hsecond, ?_⟩
    rw [← huniform first second hsecond]
    exact ih hrest

/-- The first run ends before the first item that does not continue it. -/
theorem splitBy_cons (huniform : Uniform continues) (first : Item)
    (rest : List Item) :
    (first :: rest).splitBy continues =
      (first :: rest.takeWhile (continues first)) ::
        (rest.dropWhile (continues first)).splitBy continues := by
  have hsplit : first :: rest = (first :: rest.takeWhile (continues first)) ++
      rest.dropWhile (continues first) := by
    rw [List.cons_append, List.takeWhile_append_dropWhile]
  have hends : ∀ last ∈ (first :: rest.takeWhile (continues first)).getLast?,
      ∀ next ∈ (rest.dropWhile (continues first)).head?,
        continues last next = false := by
    intro last hlast next hnext
    have hbreak : continues first next = false := by
      have hhead := List.head?_dropWhile_not (continues first) rest
      rw [Option.mem_def.mp hnext] at hhead
      simpa using hhead
    rcases List.mem_cons.mp (List.mem_of_getLast? hlast) with rfl | hmem
    · exact hbreak
    · rw [huniform first last (List.mem_takeWhile_imp hmem)]
      exact hbreak
  calc (first :: rest).splitBy continues
      = ((first :: rest.takeWhile (continues first)) ++
          rest.dropWhile (continues first)).splitBy continues := by
        rw [← hsplit]
    _ = (first :: rest.takeWhile (continues first)).splitBy continues ++
          (rest.dropWhile (continues first)).splitBy continues :=
        List.splitBy_append hends
    _ = _ := by
        rw [List.splitBy_of_isChain (List.cons_ne_nil _ _)
          (isChain_cons_takeWhile huniform first rest)]
        rfl

end HardwareInterfaces.Runs

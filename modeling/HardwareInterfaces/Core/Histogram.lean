import Mathlib

/-!
# Histograms

Samples are counted in cells, each in the cell of its bucket.  The cells may
hold counters of any type: a cell is moved on once for every sample in its
bucket.
-/

namespace HardwareInterfaces.Histogram

variable {Sample Cell : Type*} (bucket : Sample → Nat) (next : Cell → Cell)

def tally (cells : List Cell) (samples : List Sample) : List Cell :=
  samples.foldl (fun cells sample => cells.modify (bucket sample) next) cells

@[simp]
theorem length_tally (cells : List Cell) (samples : List Sample) :
    (tally bucket next cells samples).length = cells.length := by
  induction samples generalizing cells with
  | nil => rfl
  | cons sample samples ih =>
    rw [tally, List.foldl_cons, ← tally, ih, List.length_modify]

theorem tally_append (cells : List Cell) (samples later : List Sample) :
    tally bucket next cells (samples ++ later) =
      tally bucket next (tally bucket next cells samples) later :=
  List.foldl_append

theorem getElem?_tally (cells : List Cell) (samples : List Sample)
    (index : Nat) :
    (tally bucket next cells samples)[index]? =
      cells[index]?.map next^[samples.countP (bucket · = index)] := by
  induction samples generalizing cells with
  | nil => simp [tally]
  | cons sample samples ih =>
    rw [tally, List.foldl_cons, ← tally, ih, List.getElem?_modify,
      Option.map_eq_map, Option.map_map, List.countP_cons]
    by_cases hbucket : bucket sample = index
    · simp [hbucket, Function.iterate_succ]
    · simp [hbucket, Function.comp_def]

theorem sum_indicator_range (size index : Nat) :
    ((List.range size).map fun other =>
      if index = other then 1 else 0).sum = if index < size then 1 else 0 := by
  induction size with
  | zero => rfl
  | succ size ih =>
    rw [List.range_succ, List.map_append, List.sum_append, ih,
      List.map_singleton, List.sum_singleton]
    split_ifs <;> omega

/-- Every sample is in one of the buckets. -/
theorem sum_countP_bucket {size : Nat} {samples : List Sample}
    (hsize : ∀ sample ∈ samples, bucket sample < size) :
    ((List.range size).map fun index =>
      samples.countP (bucket · = index)).sum = samples.length := by
  induction samples with
  | nil => simp
  | cons sample samples ih =>
    have hrest := ih fun other hother =>
      hsize other (List.mem_cons_of_mem sample hother)
    simp only [List.countP_cons, decide_eq_true_eq, List.sum_map_add, hrest,
      sum_indicator_range, if_pos (hsize sample List.mem_cons_self),
      List.length_cons]

end HardwareInterfaces.Histogram

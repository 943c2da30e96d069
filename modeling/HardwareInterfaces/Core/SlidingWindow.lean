import Mathlib

/-!
# Windows of a growing sequence

A sequence grows at its end, and only a window of its last positions is kept:
those from `first` on.  The records of the window lie in a ring, each at its
position modulo the capacity.  The maximum of the window is at the front of a
queue that holds the positions which no later position reaches.
-/

namespace HardwareInterfaces.SlidingWindow

/-! ## Rings -/

section Ring

variable {Record : Type*} {cells stored : List Record} {first : Nat}

/-- Each record of the window is in the cell of its position. -/
def Holds (cells stored : List Record) (first : Nat) : Prop :=
  ∀ position, first ≤ position → position < stored.length →
    cells[position % cells.length]? = stored[position]?

theorem Holds.mono {later : Nat} (hholds : Holds cells stored first)
    (hle : first ≤ later) : Holds cells stored later :=
  fun position hlater => hholds position (hle.trans hlater)

/-- Positions less than one revolution apart are in different cells. -/
theorem mod_ne_mod {position next capacity : Nat} (hlt : position < next)
    (hnear : next < position + capacity) :
    next % capacity ≠ position % capacity := by
  intro hsame
  have hdvd : capacity ∣ next - position :=
    Nat.dvd_of_mod_eq_zero (Nat.sub_mod_eq_zero_of_mod_eq hsame)
  have hle := Nat.le_of_dvd (by omega) hdvd
  omega

/-- A new record overwrites no record of the window if there is room. -/
theorem Holds.push (hholds : Holds cells stored first)
    (hroom : stored.length < first + cells.length) (record : Record) :
    Holds (cells.set (stored.length % cells.length) record)
      (stored ++ [record]) first := by
  intro position hfirst hposition
  rw [List.length_append, List.length_singleton] at hposition
  rw [List.length_set, List.getElem?_set]
  by_cases hlast : position = stored.length
  · subst position
    have hcell : stored.length % cells.length < cells.length :=
      Nat.mod_lt _ (by omega)
    rw [if_pos rfl, if_pos hcell, List.getElem?_concat_length]
  · have hold : position < stored.length := by omega
    rw [if_neg (mod_ne_mod hold (by omega)),
      List.getElem?_append_left hold, hholds position hfirst hold]

end Ring

/-! ## Queues of leading positions -/

section Queue

variable {Value : Type*} [LinearOrder Value] {value : Nat → Value}
variable {first next : Nat} {queue : List Nat}

/-- The queue holds, in order, the positions of the window whose values exceed
every later value. -/
structure MaxQueue (value : Nat → Value) (first next : Nat)
    (queue : List Nat) : Prop where
  ascending : queue.Pairwise (· < ·)
  mem_iff : ∀ position, position ∈ queue ↔
    (first ≤ position ∧ position < next) ∧
      ∀ later, position < later → later < next → value later < value position

theorem maxQueue_nil (value : Nat → Value) (first : Nat) :
    MaxQueue value first first [] := by
  refine ⟨List.Pairwise.nil, fun position => ?_⟩
  simp only [List.not_mem_nil, false_iff]
  omega

theorem MaxQueue.congr {other : Nat → Value}
    (hqueue : MaxQueue value first next queue)
    (hsame : ∀ position, position < next → other position = value position) :
    MaxQueue other first next queue := by
  refine ⟨hqueue.ascending, fun position => ?_⟩
  rw [hqueue.mem_iff]
  refine and_congr_right fun hbounds => forall_congr' fun later => ?_
  refine imp_congr_right fun _ => forall_congr' fun hlater => ?_
  rw [hsame later hlater, hsame position hbounds.2]

theorem MaxQueue.descending (hqueue : MaxQueue value first next queue) :
    queue.Pairwise fun left right => value right < value left := by
  refine hqueue.ascending.imp_of_mem ?_
  intro left right hleft hright hlt
  exact ((hqueue.mem_iff left).mp hleft).2 right hlt
    ((hqueue.mem_iff right).mp hright).1.2

/-- The oldest position can only be at the front. -/
theorem MaxQueue.popFront (hqueue : MaxQueue value first next queue) :
    MaxQueue value (first + 1) next
      (if queue.head? = some first then queue.tail else queue) := by
  have hasc := hqueue.ascending
  cases queue with
  | nil =>
    refine ⟨List.Pairwise.nil, fun position => ?_⟩
    have hmem := hqueue.mem_iff position
    grind
  | cons front rest =>
    obtain ⟨hfront, hrest⟩ := List.pairwise_cons.mp hasc
    simp only [List.head?_cons, Option.some.injEq, List.tail_cons]
    split_ifs with hoff
    · subst hoff
      refine ⟨hrest, fun position => ?_⟩
      have hmem := hqueue.mem_iff position
      have hafter := hfront position
      grind
    · refine ⟨hasc, fun position => ?_⟩
      have hmem := hqueue.mem_iff position
      have hfirst := (hqueue.mem_iff front).mp List.mem_cons_self
      have hafter := hfront position
      grind

/-- A queue of cells is trimmed as the queue of their positions is. -/
theorem rdropWhile_map {Cell : Type*} {cell : Nat → Cell}
    {drop : Nat → Bool} {dropCell : Cell → Bool}
    (hdrop : ∀ position ∈ queue, dropCell (cell position) = drop position) :
    (queue.map cell).rdropWhile dropCell =
      (queue.rdropWhile drop).map cell := by
  induction queue using List.reverseRecOn with
  | nil => rfl
  | append_singleton kept back ih =>
    have hback := hdrop back (by simp)
    have hkept := ih fun position hmem =>
      hdrop position (List.mem_append_left [back] hmem)
    rw [List.map_append, List.map_singleton, List.rdropWhile_concat,
      List.rdropWhile_concat, hback, hkept]
    split_ifs
    · rfl
    · rw [List.map_append, List.map_singleton]

/-- Dropping the values that are not greater from the back of a descending
queue leaves exactly the greater ones. -/
theorem mem_rdropWhile_iff {limit : Value}
    (hdescending : queue.Pairwise fun left right => value right < value left)
    (position : Nat) :
    position ∈ queue.rdropWhile (fun kept => decide (value kept ≤ limit)) ↔
      position ∈ queue ∧ limit < value position := by
  induction queue using List.reverseRecOn with
  | nil => simp
  | append_singleton kept back ih =>
    obtain ⟨hkept, -, hback⟩ := List.pairwise_append.mp hdescending
    by_cases hlimit : value back ≤ limit
    · rw [List.rdropWhile_concat, if_pos (decide_eq_true hlimit), ih hkept]
      simp only [List.mem_append, List.mem_singleton]
      constructor
      · exact fun hmem => ⟨Or.inl hmem.1, hmem.2⟩
      · rintro ⟨hmem | rfl, hgreater⟩
        · exact ⟨hmem, hgreater⟩
        · exact absurd hgreater (not_lt.mpr hlimit)
    · rw [List.rdropWhile_concat, if_neg (by simpa using hlimit)]
      refine (and_iff_left_of_imp fun hmem => ?_).symm
      rcases List.mem_append.mp hmem with hmem | hmem
      · exact (not_le.mp hlimit).trans
          (hback position hmem back (List.mem_singleton_self back))
      · rw [List.mem_singleton.mp hmem]
        exact not_le.mp hlimit

/-- A new position displaces the positions whose values are not greater. -/
theorem MaxQueue.pushBack (hqueue : MaxQueue value first next queue)
    (hfirst : first ≤ next) :
    MaxQueue value first (next + 1)
      (queue.rdropWhile (fun kept => decide (value kept ≤ value next)) ++
        [next]) := by
  have hmem : ∀ position, position ∈ queue.rdropWhile
      (fun kept => decide (value kept ≤ value next)) ↔
        position ∈ queue ∧ value next < value position :=
    mem_rdropWhile_iff hqueue.descending
  constructor
  · have hkept := hqueue.ascending.sublist
      (List.rdropWhile_prefix
        (fun kept => decide (value kept ≤ value next)) queue).sublist
    rw [List.pairwise_append]
    refine ⟨hkept, List.pairwise_singleton _ _, ?_⟩
    intro left hleft right hright
    rw [List.mem_singleton.mp hright]
    exact ((hqueue.mem_iff left).mp ((hmem left).mp hleft).1).1.2
  · intro position
    rw [List.mem_append, hmem, hqueue.mem_iff, List.mem_singleton]
    constructor
    · rintro (⟨⟨hbounds, hleads⟩, hgreater⟩ | rfl)
      · refine ⟨⟨hbounds.1, Nat.lt_succ_of_lt hbounds.2⟩, ?_⟩
        intro later hlater hnext
        rcases Nat.lt_succ_iff_lt_or_eq.mp hnext with hlt | rfl
        · exact hleads later hlater hlt
        · exact hgreater
      · exact ⟨⟨hfirst, Nat.lt_succ_self _⟩, fun later hlater hnext =>
          absurd (Nat.lt_succ_iff.mp hnext) (not_le.mpr hlater)⟩
    · rintro ⟨⟨hlower, hupper⟩, hleads⟩
      rcases Nat.lt_succ_iff_lt_or_eq.mp hupper with hlt | rfl
      · exact Or.inl ⟨⟨⟨hlower, hlt⟩, fun later hlater hnext =>
          hleads later hlater (Nat.lt_succ_of_lt hnext)⟩,
          hleads next hlt (Nat.lt_succ_self next)⟩
      · exact Or.inr rfl

/-- Every position of the window is reached by one in the queue. -/
theorem MaxQueue.exists_mem_ge (hqueue : MaxQueue value first next queue)
    {position : Nat} (hfirst : first ≤ position) (hnext : position < next) :
    ∃ leader ∈ queue, value position ≤ value leader := by
  by_cases hmem : position ∈ queue
  · exact ⟨position, hmem, le_refl _⟩
  · rw [hqueue.mem_iff, not_and] at hmem
    have hreached := hmem ⟨hfirst, hnext⟩
    simp only [not_forall, not_lt] at hreached
    obtain ⟨later, hlater, hbound, hle⟩ := hreached
    obtain ⟨leader, hleader, hvalue⟩ :=
      hqueue.exists_mem_ge (hfirst.trans hlater.le) hbound
    exact ⟨leader, hleader, hle.trans hvalue⟩
termination_by next - position

/-- The front of the queue is a position with the largest value. -/
theorem MaxQueue.front_max (hqueue : MaxQueue value first next queue)
    (hsome : first < next) :
    ∃ front, queue.head? = some front ∧ (first ≤ front ∧ front < next) ∧
      ∀ position, first ≤ position → position < next →
        value position ≤ value front := by
  cases queue with
  | nil =>
    obtain ⟨leader, hleader, -⟩ :=
      hqueue.exists_mem_ge (Nat.le_refl first) hsome
    cases hleader
  | cons front rest =>
    have hdescending := List.pairwise_cons.mp hqueue.descending
    refine ⟨front, rfl, ((hqueue.mem_iff front).mp List.mem_cons_self).1, ?_⟩
    intro position hfirst hnext
    obtain ⟨leader, hleader, hvalue⟩ := hqueue.exists_mem_ge hfirst hnext
    rcases List.mem_cons.mp hleader with rfl | hrest
    · exact hvalue
    · exact hvalue.trans (hdescending.1 leader hrest).le

end Queue

end HardwareInterfaces.SlidingWindow

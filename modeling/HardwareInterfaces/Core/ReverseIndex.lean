import Mathlib

/-!
# Reverse index with repeated entries

A reverse index maps a key to the list of the values linked to it.  A value
may be linked to a key several times.  Linking appends one entry, unlinking
erases the first matching entry and drops a key whose list has become empty.
The lemmas count entries, because the forward side of a link keeps its own
list with the same repetitions.
-/

namespace HardwareInterfaces.ReverseIndex

variable {Key Value : Type*} [DecidableEq Key] [DecidableEq Value]

abbrev Index (Key Value : Type*) := AList fun _ : Key => List Value

omit [DecidableEq Value] in
/-- The entries stored under a key, none when the key is absent. -/
def values (index : Index Key Value) (key : Key) : List Value :=
  (index.lookup key).getD []

omit [DecidableEq Value] in
/-- Append one entry under a key, creating the key when it is absent. -/
def link (index : Index Key Value) (key : Key) (value : Value) :
    Index Key Value :=
  index.insert key (values index key ++ [value])

/-- Erase the first matching entry under a key.  The key itself goes with its
last entry. -/
def unlink (index : Index Key Value) (key : Key) (value : Value) :
    Index Key Value :=
  match index.lookup key with
  | none => index
  | some entries =>
    if value ∈ entries then
      if entries.erase value = [] then index.erase key
      else index.insert key (entries.erase value)
    else index

omit [DecidableEq Value] in
/-- Link a value to each key of a list, once for each occurrence. -/
def linkAll (index : Index Key Value) (keys : List Key) (value : Value) :
    Index Key Value :=
  keys.foldl (fun current key => link current key value) index

/-- Unlink a value from each key of a list, once for each occurrence. -/
def unlinkAll (index : Index Key Value) (keys : List Key) (value : Value) :
    Index Key Value :=
  keys.foldl (fun current key => unlink current key value) index

/-- No key is kept for an empty list of entries. -/
def NoEmptyKey (index : Index Key Value) : Prop :=
  ∀ key entries, index.lookup key = some entries → entries ≠ []

variable {index : Index Key Value} {key : Key}

omit [DecidableEq Value] in
theorem values_eq_of_lookup {entries : List Value}
    (hlookup : index.lookup key = some entries) :
    values index key = entries := by
  simp [values, hlookup]

omit [DecidableEq Value] in
theorem lookup_isSome_of_mem_values {value : Value}
    (hmem : value ∈ values index key) :
    index.lookup key = some (values index key) := by
  cases hlookup : index.lookup key with
  | none => simp [values, hlookup] at hmem
  | some entries => simp [values, hlookup]

omit [DecidableEq Value] in
theorem values_link (index : Index Key Value) (key other : Key)
    (value : Value) :
    values (link index key value) other =
      if other = key then values index other ++ [value]
      else values index other := by
  by_cases hkey : other = key
  · subst hkey
    simp [values, link]
  · simp [values, link, hkey]

section

variable (index : Index Key Value)

theorem values_unlink (key other : Key) (value : Value) :
    values (unlink index key value) other =
      if other = key then (values index other).erase value
      else values index other := by
  cases hlookup : index.lookup key with
  | none =>
    have hnone : values index key = [] := by simp [values, hlookup]
    by_cases hkey : other = key
    · subst hkey
      simp [unlink, hlookup, hnone]
    · simp [unlink, hlookup, hkey]
  | some entries =>
    have hentries := values_eq_of_lookup hlookup
    by_cases hmem : value ∈ entries
    · by_cases hlast : entries.erase value = []
      · by_cases hkey : other = key
        · subst hkey
          simp [unlink, hlookup, hmem, hlast, values]
        · simp [unlink, hlookup, hmem, hlast, values, hkey]
      · by_cases hkey : other = key
        · subst hkey
          simp [unlink, hlookup, hmem, hlast, values]
        · simp [unlink, hlookup, hmem, hlast, values, hkey]
    · by_cases hkey : other = key
      · subst hkey
        simp [unlink, hlookup, hmem, hentries, List.erase_of_not_mem]
      · simp [unlink, hlookup, hmem, hkey]

theorem count_link (key other : Key) (value target : Value) :
    (values (link index key value) other).count target =
      (values index other).count target +
        if other = key ∧ target = value then 1 else 0 := by
  rw [values_link]
  by_cases hkey : other = key
  · by_cases htarget : target = value
    · simp [hkey, htarget]
    · have hne : ¬ value = target := fun heq => htarget heq.symm
      simp [hkey, htarget, hne]
  · simp [hkey]

theorem count_unlink (key other : Key) (value target : Value) :
    (values (unlink index key value) other).count target =
      (values index other).count target -
        if other = key ∧ target = value then 1 else 0 := by
  rw [values_unlink]
  by_cases hkey : other = key
  · by_cases htarget : target = value
    · simp [hkey, htarget, List.count_erase_self]
    · simp [hkey, htarget, List.count_erase_of_ne]
  · simp [hkey]

/-- Linking over a list of keys adds one entry for each occurrence. -/
theorem count_linkAll (keys : List Key) (key : Key) (value target : Value) :
    (values (linkAll index keys value) key).count target =
      (values index key).count target +
        if target = value then keys.count key else 0 := by
  induction keys generalizing index with
  | nil => simp [linkAll]
  | cons head tail ih =>
    have htail := ih (link index head value)
    simp only [linkAll, List.foldl_cons] at htail ⊢
    rw [htail, count_link, List.count_cons]
    by_cases htarget : target = value
    · by_cases hkey : key = head
      · simp [htarget, hkey]
        omega
      · have hne : ¬ head = key := fun heq => hkey heq.symm
        simp [htarget, hkey, hne]
    · simp [htarget]

/-- Unlinking over a list of keys removes one entry for each occurrence. -/
theorem count_unlinkAll (keys : List Key) (key : Key) (value target : Value) :
    (values (unlinkAll index keys value) key).count target =
      (values index key).count target -
        if target = value then keys.count key else 0 := by
  induction keys generalizing index with
  | nil => simp [unlinkAll]
  | cons head tail ih =>
    have htail := ih (unlink index head value)
    simp only [unlinkAll, List.foldl_cons] at htail ⊢
    rw [htail, count_unlink, List.count_cons]
    by_cases htarget : target = value
    · by_cases hkey : key = head
      · simp [htarget, hkey]
        omega
      · have hne : ¬ head = key := fun heq => hkey heq.symm
        simp [htarget, hkey, hne]
    · simp [htarget]

end

omit [DecidableEq Value] in
/-- Linking over a list of keys appends one entry for each occurrence. -/
theorem values_linkAll (index : Index Key Value) (keys : List Key) (key : Key)
    (value : Value) :
    values (linkAll index keys value) key =
      values index key ++ List.replicate (keys.count key) value := by
  induction keys generalizing index with
  | nil => simp [linkAll]
  | cons head tail ih =>
    have htail := ih (link index head value)
    simp only [linkAll, List.foldl_cons] at htail ⊢
    rw [htail, values_link, List.count_cons]
    by_cases hkey : key = head
    · subst hkey
      rw [if_pos rfl, if_pos (beq_self_eq_true key), List.append_assoc,
        List.replicate_succ]
      rfl
    · have hne : ¬ (head == key) = true :=
        fun heq => hkey (beq_iff_eq.mp heq).symm
      rw [if_neg hkey, if_neg hne, Nat.add_zero]

omit [DecidableEq Key] in
theorem filter_ne_erase (entries : List Value) (value : Value) :
    (entries.erase value).filter (fun other => decide (other ≠ value)) =
      entries.filter fun other => decide (other ≠ value) := by
  induction entries with
  | nil => rfl
  | cons head tail ih =>
    by_cases hhead : head = value
    · simp [hhead]
    · rw [List.erase_cons_tail (by simpa using hhead), List.filter_cons,
        List.filter_cons, ih]

/-- Unlinking often enough takes all the entries of a value away and leaves
the others in their order. -/
theorem values_unlinkAll_of_count_le {keys : List Key} {value : Value}
    (hcount : (values index key).count value ≤ keys.count key) :
    values (unlinkAll index keys value) key =
      (values index key).filter fun other => decide (other ≠ value) := by
  induction keys generalizing index with
  | nil =>
    have hnone : value ∉ values index key :=
      List.count_eq_zero.mp (Nat.le_zero.mp hcount)
    symm
    apply List.filter_eq_self.mpr
    intro other hother
    exact decide_eq_true fun heq => hnone (heq ▸ hother)
  | cons head tail ih =>
    have hrest : (values (unlink index head value) key).count value ≤
        tail.count key := by
      rw [count_unlink]
      rw [List.count_cons] at hcount
      by_cases hkey : key = head
      · subst hkey
        simp only [beq_self_eq_true, if_true] at hcount
        rw [if_pos ⟨rfl, rfl⟩]
        omega
      · have hne : ¬ (head == key) = true :=
          fun heq => hkey (beq_iff_eq.mp heq).symm
        rw [if_neg hne] at hcount
        rw [if_neg fun hboth => hkey hboth.1]
        omega
    have htail := ih hrest
    simp only [unlinkAll, List.foldl_cons] at htail ⊢
    rw [htail, values_unlink]
    split_ifs
    · exact filter_ne_erase _ value
    · rfl

omit [DecidableEq Value] in
theorem noEmptyKey_link (hindex : NoEmptyKey index) (key : Key)
    (value : Value) : NoEmptyKey (link index key value) := by
  intro other entries hlookup
  by_cases hkey : other = key
  · subst hkey
    simp only [link, AList.lookup_insert, Option.some.injEq] at hlookup
    simp [← hlookup]
  · rw [link, AList.lookup_insert_ne hkey] at hlookup
    exact hindex other entries hlookup

theorem noEmptyKey_unlink (hindex : NoEmptyKey index) (key : Key)
    (value : Value) : NoEmptyKey (unlink index key value) := by
  intro other entries hlookup
  cases hkeep : index.lookup key with
  | none =>
    rw [unlink, hkeep] at hlookup
    exact hindex other entries hlookup
  | some stored =>
    simp only [unlink, hkeep] at hlookup
    split_ifs at hlookup with hmem hlast
    · by_cases hkey : other = key
      · subst hkey
        simp at hlookup
      · rw [AList.lookup_erase_ne hkey] at hlookup
        exact hindex other entries hlookup
    · by_cases hkey : other = key
      · subst hkey
        simp only [AList.lookup_insert, Option.some.injEq] at hlookup
        exact hlookup ▸ hlast
      · rw [AList.lookup_insert_ne hkey] at hlookup
        exact hindex other entries hlookup
    · exact hindex other entries hlookup

omit [DecidableEq Value] in
/-- A key is absent exactly when it has no entries. -/
theorem lookup_eq_none_iff (hindex : NoEmptyKey index) (key : Key) :
    index.lookup key = none ↔ values index key = [] := by
  cases hlookup : index.lookup key with
  | none => simp [values, hlookup]
  | some entries =>
    rw [values_eq_of_lookup hlookup]
    exact iff_of_false nofun (hindex key entries hlookup)

omit [DecidableEq Value] in
theorem noEmptyKey_linkAll (hindex : NoEmptyKey index) (keys : List Key)
    (value : Value) : NoEmptyKey (linkAll index keys value) := by
  induction keys generalizing index with
  | nil => exact hindex
  | cons head tail ih => exact ih (noEmptyKey_link hindex head value)

theorem noEmptyKey_unlinkAll (hindex : NoEmptyKey index) (keys : List Key)
    (value : Value) : NoEmptyKey (unlinkAll index keys value) := by
  induction keys generalizing index with
  | nil => exact hindex
  | cons head tail ih => exact ih (noEmptyKey_unlink hindex head value)

end HardwareInterfaces.ReverseIndex

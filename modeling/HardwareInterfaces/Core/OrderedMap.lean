import Mathlib

/-!
# Maps that are traversed in the order of their keys

The entries of a map are a list with ascending keys.  Looking up a key turns
the map into a function, on which inserting and erasing are point updates; the
order matters only to loops over the entries.
-/

namespace HardwareInterfaces

structure OrderedMap (Key Value : Type*) [LinearOrder Key] where
  entries : List (Key × Value)
  ascending : entries.Pairwise fun left right => left.1 < right.1

namespace OrderedMap

variable {Key Value : Type*} [LinearOrder Key]

/-- Insert an entry at its place, replacing one with the same key. -/
def insertEntry (key : Key) (value : Value) :
    List (Key × Value) → List (Key × Value)
  | [] => [(key, value)]
  | entry :: rest =>
    if key < entry.1 then (key, value) :: entry :: rest
    else if key = entry.1 then (key, value) :: rest
    else entry :: insertEntry key value rest

variable {key : Key} {value : Value}

theorem mem_insertEntry_iff {entry : Key × Value}
    {entries : List (Key × Value)}
    (hascending : entries.Pairwise fun left right => left.1 < right.1) :
    entry ∈ insertEntry key value entries ↔
      entry = (key, value) ∨ (entry.1 ≠ key ∧ entry ∈ entries) := by
  induction entries with
  | nil => simp [insertEntry]
  | cons first rest ih =>
    obtain ⟨hfirst, hrest⟩ := List.pairwise_cons.mp hascending
    rw [insertEntry]
    split_ifs with hlt heq
    · -- Every old key is above the new one.
      have hne : entry ∈ first :: rest → entry.1 ≠ key := by
        intro hmem
        rcases List.mem_cons.mp hmem with rfl | hmem
        · exact hlt.ne'
        · exact (hlt.trans (hfirst entry hmem)).ne'
      rw [List.mem_cons, and_iff_right_of_imp hne]
    · have hne : entry ∈ rest → entry.1 ≠ key := by
        intro hmem
        rw [heq]
        exact (hfirst entry hmem).ne'
      have hold : entry.1 ≠ key → entry ≠ first := by
        rintro hne rfl
        exact hne heq.symm
      rw [List.mem_cons, List.mem_cons]
      grind
    · have hne : entry = first → entry.1 ≠ key := by
        rintro rfl
        exact Ne.symm heq
      rw [List.mem_cons, List.mem_cons, ih hrest]
      grind

theorem ascending_insertEntry (key : Key) (value : Value)
    {entries : List (Key × Value)}
    (hascending : entries.Pairwise fun left right => left.1 < right.1) :
    (insertEntry key value entries).Pairwise
      fun left right => left.1 < right.1 := by
  induction entries with
  | nil => exact List.pairwise_singleton _ _
  | cons first rest ih =>
    obtain ⟨hfirst, hrest⟩ := List.pairwise_cons.mp hascending
    rw [insertEntry]
    split_ifs with hlt heq
    · refine List.pairwise_cons.mpr ⟨fun entry hentry => ?_, hascending⟩
      rcases List.mem_cons.mp hentry with rfl | hentry
      · exact hlt
      · exact hlt.trans (hfirst entry hentry)
    · refine List.pairwise_cons.mpr ⟨fun entry hentry => ?_, hrest⟩
      rw [heq]
      exact hfirst entry hentry
    · refine List.pairwise_cons.mpr ⟨fun entry hentry => ?_, ih hrest⟩
      rcases (mem_insertEntry_iff hrest).mp hentry with rfl | ⟨-, hentry⟩
      · exact lt_of_le_of_ne (not_lt.mp hlt) (Ne.symm heq)
      · exact hfirst entry hentry

def empty : OrderedMap Key Value := ⟨[], List.Pairwise.nil⟩

variable (map : OrderedMap Key Value)

def lookup (key : Key) : Option Value :=
  (map.entries.find? fun entry => decide (entry.1 = key)).map Prod.snd

def insert (key : Key) (value : Value) : OrderedMap Key Value :=
  ⟨insertEntry key value map.entries,
    ascending_insertEntry key value map.ascending⟩

def erase (key : Key) : OrderedMap Key Value :=
  ⟨map.entries.filter fun entry => decide (entry.1 ≠ key),
    map.ascending.filter _⟩

/-- A loop over the values in the order of the keys. -/
def mapAccumEntries {State : Type*} (step : State → Value → Value × State) :
    State → List (Key × Value) → List (Key × Value)
  | _, [] => []
  | state, (key, value) :: rest =>
    (key, (step state value).1) ::
      mapAccumEntries step (step state value).2 rest

omit [LinearOrder Key] in
theorem map_fst_mapAccumEntries {State : Type*}
    (step : State → Value → Value × State) (state : State)
    (entries : List (Key × Value)) :
    (mapAccumEntries step state entries).map Prod.fst =
      entries.map Prod.fst := by
  induction entries generalizing state with
  | nil => rfl
  | cons entry rest ih => rw [mapAccumEntries, List.map_cons, ih, List.map_cons]

def mapAccum {State : Type*} (step : State → Value → Value × State)
    (state : State) : OrderedMap Key Value where
  entries := mapAccumEntries step state map.entries
  ascending := by
    have hkeys : (map.entries.map Prod.fst).Pairwise (· < ·) :=
      List.pairwise_map.mpr map.ascending
    rw [← map_fst_mapAccumEntries step state] at hkeys
    exact List.pairwise_map.mp hkeys

variable {map}

theorem eq_of_mem_entries {left right : Key × Value}
    (hleft : left ∈ map.entries) (hright : right ∈ map.entries)
    (hkey : left.1 = right.1) : left = right := by
  have hkeys : (map.entries.map Prod.fst).Nodup :=
    List.pairwise_map.mpr (map.ascending.imp ne_of_lt)
  exact List.inj_on_of_nodup_map hkeys hleft hright hkey

theorem mem_entries_iff :
    (key, value) ∈ map.entries ↔ map.lookup key = some value := by
  rw [lookup, Option.map_eq_some_iff]
  constructor
  · intro hmem
    cases hfind : map.entries.find? fun entry => decide (entry.1 = key) with
    | none =>
      have hnone := List.find?_eq_none.mp hfind _ hmem
      exact absurd (decide_eq_true rfl) hnone
    | some found =>
      have hkey : found.1 = key := by
        simpa using List.find?_some hfind
      have hsame : found = (key, value) :=
        eq_of_mem_entries (List.mem_of_find?_eq_some hfind) hmem hkey
      exact ⟨found, rfl, congrArg Prod.snd hsame⟩
  · rintro ⟨found, hfind, rfl⟩
    have hkey : found.1 = key := by simpa using List.find?_some hfind
    rw [← hkey]
    exact List.mem_of_find?_eq_some hfind

theorem key_le_of_getLast? {last : Key × Value}
    (hlast : map.entries.getLast? = some last)
    (hlookup : map.lookup key = some value) : key ≤ last.1 := by
  obtain ⟨front, hentries⟩ := List.getLast?_eq_some_iff.mp hlast
  have hmem := mem_entries_iff.mpr hlookup
  have hascending := map.ascending
  rw [hentries] at hmem hascending
  rcases List.mem_append.mp hmem with hfront | hend
  · exact ((List.pairwise_append.mp hascending).2.2 _ hfront last
      List.mem_cons_self).le
  · rw [← List.mem_singleton.mp hend]

theorem lookup_insert (map : OrderedMap Key Value) (key : Key)
    (value : Value) :
    (map.insert key value).lookup =
      Function.update map.lookup key (some value) := by
  funext other
  ext found
  rw [← mem_entries_iff, insert, mem_insertEntry_iff map.ascending,
    mem_entries_iff, Prod.mk.injEq, Function.update_apply]
  by_cases hkey : other = key
  · simp [hkey, eq_comm]
  · simp [hkey]

/-- A loop that sets some keys to values that depend on the key only. -/
theorem lookup_foldl_insert (map : OrderedMap Key Value) (keys : List Key)
    (value : Key → Value) (key : Key) :
    (keys.foldl (fun map key => map.insert key (value key)) map).lookup key =
      if key ∈ keys then some (value key) else map.lookup key := by
  induction keys generalizing map with
  | nil => rfl
  | cons first rest ih =>
    rw [List.foldl_cons, ih, lookup_insert]
    by_cases hrest : key ∈ rest
    · rw [if_pos hrest, if_pos (List.mem_cons_of_mem first hrest)]
    · rw [if_neg hrest]
      by_cases hfirst : key = first
      · subst hfirst
        rw [Function.update_self, if_pos List.mem_cons_self]
      · rw [Function.update_of_ne hfirst, if_neg]
        exact fun hmem => (List.mem_cons.mp hmem).elim hfirst hrest

theorem lookup_erase (map : OrderedMap Key Value) (key : Key) :
    (map.erase key).lookup = Function.update map.lookup key none := by
  funext other
  ext found
  rw [← mem_entries_iff, erase, List.mem_filter, mem_entries_iff,
    Function.update_apply]
  by_cases hkey : other = key
  · simp [hkey]
  · simp [hkey]

/-! ## Entries up to order -/

theorem nodup_entries (map : OrderedMap Key Value) : map.entries.Nodup := by
  apply map.ascending.imp
  rintro left right hlt rfl
  exact lt_irrefl left.1 hlt

theorem entries_insert_perm (habsent : map.lookup key = none) (value : Value) :
    (map.insert key value).entries.Perm ((key, value) :: map.entries) := by
  have hfresh : (key, value) ∉ map.entries := by
    rw [mem_entries_iff, habsent]
    exact nofun
  rw [List.perm_ext_iff_of_nodup (nodup_entries _)
    (List.nodup_cons.mpr ⟨hfresh, map.nodup_entries⟩)]
  intro entry
  have hother : entry ∈ map.entries → entry.1 ≠ key := by
    rintro hentry rfl
    rw [mem_entries_iff.mp hentry] at habsent
    exact nomatch habsent
  rw [insert, mem_insertEntry_iff map.ascending, List.mem_cons,
    and_iff_right_of_imp hother]

theorem entries_erase_perm (hlookup : map.lookup key = some value) :
    map.entries.Perm ((key, value) :: (map.erase key).entries) := by
  have hgone : (key, value) ∉ (map.erase key).entries := by
    rw [mem_entries_iff, lookup_erase, Function.update_self]
    exact nofun
  rw [List.perm_ext_iff_of_nodup map.nodup_entries
    (List.nodup_cons.mpr ⟨hgone, nodup_entries _⟩)]
  intro entry
  have hsame : entry.1 = key → (entry ∈ map.entries ↔ entry = (key, value)) := by
    rintro rfl
    rw [mem_entries_iff, hlookup, Option.some.injEq, Prod.ext_iff]
    simp [eq_comm]
  rw [List.mem_cons, erase, List.mem_filter, decide_eq_true_eq]
  by_cases hkey : entry.1 = key
  · simp [hsame hkey, hkey]
  · have hne : entry ≠ (key, value) := fun heq => hkey (congrArg Prod.fst heq)
    simp [hne, hkey]

theorem entries_insert_perm_erase (map : OrderedMap Key Value) (key : Key)
    (value : Value) :
    (map.insert key value).entries.Perm
      ((key, value) :: (map.erase key).entries) := by
  have hgone : (key, value) ∉ (map.erase key).entries := by
    rw [mem_entries_iff, lookup_erase, Function.update_self]
    exact nofun
  rw [List.perm_ext_iff_of_nodup (nodup_entries _)
    (List.nodup_cons.mpr ⟨hgone, nodup_entries _⟩)]
  intro entry
  rw [insert, mem_insertEntry_iff map.ascending, List.mem_cons, erase,
    List.mem_filter, decide_eq_true_eq, and_comm]

/-- Erasing a list of keys keeps the other entries. -/
theorem entries_foldl_erase (map : OrderedMap Key Value) (keys : List Key) :
    (keys.foldl erase map).entries =
      map.entries.filter fun entry => decide (entry.1 ∉ keys) := by
  induction keys generalizing map with
  | nil => simp
  | cons key keys ih =>
    rw [List.foldl_cons, ih, erase, List.filter_filter]
    apply List.filter_congr
    intro entry _
    simp [Bool.and_comm]

theorem lookup_foldl_erase (map : OrderedMap Key Value) (keys : List Key)
    (key : Key) :
    (keys.foldl erase map).lookup key =
      if key ∈ keys then none else map.lookup key := by
  induction keys generalizing map with
  | nil => simp
  | cons first keys ih =>
    rw [List.foldl_cons, ih, lookup_erase, Function.update_apply]
    by_cases heq : key = first <;> simp [heq]

/-- A map is what it holds under each key. -/
theorem eq_of_lookup {left right : OrderedMap Key Value}
    (hlookup : ∀ key, left.lookup key = right.lookup key) : left = right := by
  have hperm : left.entries.Perm right.entries := by
    rw [List.perm_ext_iff_of_nodup (nodup_entries _) (nodup_entries _)]
    rintro ⟨key, value⟩
    rw [mem_entries_iff, mem_entries_iff, hlookup]
  have hentries : left.entries = right.entries := by
    apply hperm.eq_of_pairwise _ left.ascending right.ascending
    intro first second _ _ hlt hgt
    exact absurd hgt hlt.asymm
  cases left
  cases right
  cases hentries
  rfl

theorem insert_eq_self_iff :
    map.insert key value = map ↔ map.lookup key = some value := by
  constructor
  · intro hsame
    have hlookup := congrFun (lookup_insert map key value) key
    rwa [hsame, Function.update_self] at hlookup
  · intro hlookup
    apply eq_of_lookup
    intro other
    rw [lookup_insert, ← hlookup, Function.update_eq_self]

theorem erase_eq_self_iff : map.erase key = map ↔ map.lookup key = none := by
  constructor
  · intro hsame
    have hlookup := congrFun (lookup_erase map key) key
    rwa [hsame, Function.update_self] at hlookup
  · intro hlookup
    apply eq_of_lookup
    intro other
    rw [lookup_erase, ← hlookup, Function.update_eq_self]

theorem erase_insert (map : OrderedMap Key Value) (key : Key)
    (value : Value) : (map.insert key value).erase key = map.erase key := by
  apply eq_of_lookup
  intro other
  rw [lookup_erase, lookup_erase, lookup_insert, Function.update_idem]

/-! ## Items listed by the entries -/

section Items

variable {Item : Type*} (items : Key × Value → List Item)

/-- The items of the entry under a key. -/
def itemsAt (map : OrderedMap Key Value) (key : Key) : List Item :=
  ((map.lookup key).map fun value => items (key, value)).getD []

theorem flatMap_perm_itemsAt (map : OrderedMap Key Value) (key : Key) :
    (map.entries.flatMap items).Perm
      (map.itemsAt items key ++ (map.erase key).entries.flatMap items) := by
  cases hlookup : map.lookup key with
  | none =>
    have hsame : (map.erase key).entries = map.entries := by
      apply List.filter_eq_self.mpr
      intro entry hentry
      apply decide_eq_true
      rintro rfl
      rw [mem_entries_iff.mp hentry] at hlookup
      cases hlookup
    simp [itemsAt, hlookup, hsame]
  | some value =>
    have hperm := (entries_erase_perm hlookup).flatMap_right items
    simpa [itemsAt, hlookup] using hperm

theorem flatMap_insert_perm (map : OrderedMap Key Value) (key : Key)
    (value : Value) :
    ((map.insert key value).entries.flatMap items).Perm
      (items (key, value) ++ (map.erase key).entries.flatMap items) :=
  (entries_insert_perm_erase map key value).flatMap_right items

variable {items}

/-- An entry that lists more than before adds what is new. -/
theorem flatMap_insert_perm_append {map : OrderedMap Key Value} {key : Key}
    {value : Value} {added : List Item}
    (hadded : items (key, value) = map.itemsAt items key ++ added) :
    ((map.insert key value).entries.flatMap items).Perm
      (map.entries.flatMap items ++ added) := by
  have hold := flatMap_perm_itemsAt items map key
  have hnew := flatMap_insert_perm items map key value
  rw [hadded, List.append_assoc] at hnew
  refine hnew.trans ?_
  have hswap := hold.symm.append_right added
  rw [List.append_assoc] at hswap
  exact (List.perm_append_comm.append_left _).trans hswap

variable (items) in
/-- Overwriting entries by ones that list nothing takes their items out. -/
theorem flatMap_foldl_insert_perm (map : OrderedMap Key Value)
    {keys : List Key} (hnodup : keys.Nodup) (value : Key → Value)
    (hgone : ∀ key ∈ keys, items (key, value key) = []) :
    (map.entries.flatMap items).Perm
      (keys.flatMap (map.itemsAt items) ++
        (keys.foldl (fun map key => map.insert key (value key))
          map).entries.flatMap items) := by
  induction keys generalizing map with
  | nil => exact .refl _
  | cons key keys ih =>
    obtain ⟨hnotMem, hnodup⟩ := List.nodup_cons.mp hnodup
    obtain ⟨hfirst, hgone⟩ := List.forall_mem_cons.mp hgone
    have hrest := ih (map.insert key (value key)) hnodup hgone
    have hsame : keys.flatMap ((map.insert key (value key)).itemsAt items) =
        keys.flatMap (map.itemsAt items) := by
      apply List.flatMap_congr
      intro other hother
      have hne : other ≠ key := fun heq => hnotMem (heq ▸ hother)
      rw [itemsAt, itemsAt, lookup_insert, Function.update_of_ne hne]
    have hinsert := flatMap_insert_perm items map key (value key)
    rw [hfirst, List.nil_append] at hinsert
    rw [hsame] at hrest
    rw [List.flatMap_cons, List.append_assoc, List.foldl_cons]
    refine (flatMap_perm_itemsAt items map key).trans (.append_left _ ?_)
    exact hinsert.symm.trans hrest

end Items

/-! ## Loops over the values -/

theorem isSome_lookup_iff :
    (map.lookup key).isSome ↔ key ∈ map.entries.map Prod.fst := by
  rw [Option.isSome_iff_exists, List.mem_map]
  constructor
  · rintro ⟨value, hlookup⟩
    exact ⟨(key, value), mem_entries_iff.mpr hlookup, rfl⟩
  · rintro ⟨entry, hentry, rfl⟩
    exact ⟨entry.2, mem_entries_iff.mp hentry⟩

/-! ## The keys -/

def keys (map : OrderedMap Key Value) : List Key := map.entries.map Prod.fst

theorem mem_keys_iff : key ∈ map.keys ↔ (map.lookup key).isSome :=
  isSome_lookup_iff.symm

theorem nodup_keys (map : OrderedMap Key Value) : map.keys.Nodup :=
  List.pairwise_map.mpr (map.ascending.imp fun hlt => hlt.ne)

@[simp]
theorem mem_keys_insert {other : Key} :
    other ∈ (map.insert key value).keys ↔ other = key ∨ other ∈ map.keys := by
  rw [mem_keys_iff, mem_keys_iff, lookup_insert, Function.update_apply]
  by_cases heq : other = key <;> simp [heq]

@[simp]
theorem mem_keys_erase {other : Key} :
    other ∈ (map.erase key).keys ↔ other ≠ key ∧ other ∈ map.keys := by
  rw [mem_keys_iff, mem_keys_iff, lookup_erase, Function.update_apply]
  by_cases heq : other = key <;> simp [heq]

section Loop

variable {State : Type*} {step : State → Value → Value × State}

theorem isSome_lookup_mapAccum (state : State) (key : Key) :
    ((map.mapAccum step state).lookup key).isSome =
      (map.lookup key).isSome := by
  rw [Bool.eq_iff_iff, isSome_lookup_iff, isSome_lookup_iff, mapAccum,
    map_fst_mapAccumEntries]

omit [LinearOrder Key] in
theorem exists_mem_mapAccumEntries {entries : List (Key × Value)}
    {entry : Key × Value} (hentry : entry ∈ entries) (state : State) :
    ∃ state', (entry.1, (step state' entry.2).1) ∈
      mapAccumEntries step state entries := by
  induction entries generalizing state with
  | nil => exact nomatch hentry
  | cons first rest ih =>
    rcases List.mem_cons.mp hentry with rfl | hrest
    · exact ⟨state, List.mem_cons_self⟩
    · obtain ⟨state', hmem⟩ := ih hrest (step state first.2).2
      exact ⟨state', List.mem_cons_of_mem _ hmem⟩

/-- The loop reaches every value in some state. -/
theorem exists_lookup_mapAccum {key : Key} {value : Value}
    (hlookup : map.lookup key = some value) (state : State) :
    ∃ state', (map.mapAccum step state).lookup key =
      some (step state' value).1 := by
  obtain ⟨state', hmem⟩ :=
    exists_mem_mapAccumEntries (mem_entries_iff.mpr hlookup) state
  exact ⟨state', mem_entries_iff.mp hmem⟩

end Loop

end OrderedMap

end HardwareInterfaces

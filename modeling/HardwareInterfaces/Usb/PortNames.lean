import HardwareInterfaces.Usb.RoleSwitch

/-!
# Names of the ports

The directory of the ports is read twice: a first pass counts its links, and a
second one writes their names into a vector of that size.  A link too many in
the second pass starts the scan again.  A link too few is not noticed, and a
scan that is started again and then finds no link leaves the vector as the scan
before it left it.

The directory may change at any time, so every pass has a listing of its own.
-/

namespace HardwareInterfaces.Usb

structure Dirent where
  name : String
  isLink : Bool
  deriving DecidableEq, Repr

/-- What one pass over the directory reads. -/
abbrev Listing := List Dirent

def linkNames (listing : Listing) : List String :=
  (listing.filter Dirent.isLink).map Dirent.name

def countLinks (listing : Listing) : Nat :=
  listing.countP Dirent.isLink

def resize (ports : Nat) (names : List String) : List String :=
  names.take ports ++ List.replicate (ports - names.length) ""

/-- How a filling pass ends; `grew` if it found a link too many. -/
structure Filled where
  names : List String
  grew : Bool
  deriving DecidableEq, Repr

def fill (ports : Nat) : Nat → List String → Listing → Filled
  | _, names, [] => ⟨names, false⟩
  | current, names, entry :: rest =>
    if entry.isLink then
      if ports ≤ current then ⟨names, true⟩
      else fill ports (current + 1) (names.set current entry.name) rest
    else fill ports current names rest

/-- The vector when the scan ends; `none` if the listings run out before. -/
def scan : List String → List Listing → Option (List String)
  | _, [] => none
  | names, [counted] => if countLinks counted = 0 then some names else none
  | names, counted :: filled :: later =>
    if countLinks counted = 0 then some names
    else
      let ports := countLinks counted
      let result := fill ports 0 (resize ports names) filled
      if result.grew then scan result.names later else some result.names

/-- The vector and the status that are returned, if the call returns. -/
def getTypeCPortNamesHelper (opens : Bool) (names : List String)
    (passes : List Listing) : Option (Status × List String) :=
  if opens then (scan names passes).map (.success, ·)
  else some (.error, names)

/-! ## What a filling pass does -/

variable (ports : Nat) (listing : Listing) (names : List String)

@[simp]
theorem length_linkNames : (linkNames listing).length = countLinks listing := by
  rw [linkNames, List.length_map, countLinks, List.countP_eq_length_filter]

variable {entry : Dirent}

@[simp]
theorem linkNames_cons_of_isLink (hlink : entry.isLink = true)
    (rest : Listing) :
    linkNames (entry :: rest) = entry.name :: linkNames rest := by
  rw [linkNames, List.filter_cons_of_pos hlink, List.map_cons, linkNames]

@[simp]
theorem linkNames_cons_of_not_isLink (hlink : ¬ entry.isLink = true)
    (rest : Listing) : linkNames (entry :: rest) = linkNames rest := by
  rw [linkNames, List.filter_cons_of_neg hlink, linkNames]

theorem length_resize : (resize ports names).length = ports := by
  rw [resize, List.length_append, List.length_take, List.length_replicate]
  omega

@[simp]
theorem countLinks_cons_of_isLink (hlink : entry.isLink = true)
    (rest : Listing) : countLinks (entry :: rest) = countLinks rest + 1 :=
  List.countP_cons_of_pos hlink

@[simp]
theorem countLinks_cons_of_not_isLink (hlink : ¬ entry.isLink = true)
    (rest : Listing) : countLinks (entry :: rest) = countLinks rest :=
  List.countP_cons_of_neg hlink

theorem linkNames_eq_nil_iff :
    linkNames listing = [] ↔ countLinks listing = 0 := by
  rw [← List.length_eq_zero_iff, length_linkNames]

/-- A pass that stays within the vector writes the names of its links behind
those it has written, and leaves what stands after them. -/
theorem fill_of_fits (written left : List String)
    (hfits : countLinks listing ≤ left.length) :
    fill (written.length + left.length) written.length (written ++ left)
        listing =
      ⟨written ++ linkNames listing ++ left.drop (countLinks listing),
        false⟩ := by
  induction listing generalizing written left with
  | nil => simp [fill, linkNames, countLinks]
  | cons entry rest ih =>
    by_cases hlink : entry.isLink = true
    · rw [countLinks_cons_of_isLink hlink] at hfits
      cases left with
      | nil => exact absurd hfits (Nat.not_succ_le_zero _)
      | cons old left =>
        have hroom :
            ¬ written.length + (old :: left).length ≤ written.length := by
          rw [List.length_cons]
          omega
        have hplace : (written ++ old :: left).set written.length
            entry.name = (written ++ [entry.name]) ++ left := by
          simp
        have hnext := ih (written ++ [entry.name]) left
          (Nat.le_of_succ_le_succ hfits)
        rw [fill, if_pos hlink, if_neg hroom, hplace]
        rw [List.length_append, List.length_singleton] at hnext
        rw [List.length_cons, ← Nat.add_assoc, Nat.add_right_comm, hnext,
          linkNames_cons_of_isLink hlink, countLinks_cons_of_isLink hlink]
        simp
    · rw [countLinks_cons_of_not_isLink hlink] at hfits ⊢
      rw [fill, if_neg hlink, linkNames_cons_of_not_isLink hlink]
      exact ih written left hfits

/-- A pass with a link too many is cut off. -/
theorem grew_fill (current : Nat) (names : List String)
    (hcurrent : current ≤ ports)
    (hgrown : ports < current + countLinks listing) :
    (fill ports current names listing).grew = true := by
  induction listing generalizing current names with
  | nil => exact absurd hgrown (Nat.not_lt_of_le hcurrent)
  | cons entry rest ih =>
    by_cases hlink : entry.isLink = true
    · rw [countLinks_cons_of_isLink hlink] at hgrown
      rw [fill, if_pos hlink]
      split_ifs with hfull
      · rfl
      · exact ih (current + 1) _ (by omega) (by omega)
    · rw [countLinks_cons_of_not_isLink hlink] at hgrown
      rw [fill, if_neg hlink]
      exact ih current names hcurrent hgrown

theorem length_names_fill (current : Nat) (names : List String) :
    (fill ports current names listing).names.length = names.length := by
  induction listing generalizing current names with
  | nil => rfl
  | cons entry rest ih =>
    rw [fill]
    split_ifs
    · rfl
    · rw [ih, List.length_set]
    · exact ih current names

/-- The filling pass of a scan. -/
theorem fill_resize_of_fits {ports : Nat} {listing : Listing}
    (hfits : countLinks listing ≤ ports) :
    fill ports 0 (resize ports names) listing =
      ⟨linkNames listing ++ (resize ports names).drop (countLinks listing),
        false⟩ := by
  have hfill := fill_of_fits listing [] (resize ports names)
    (by rwa [length_resize])
  simpa only [List.length_nil, Nat.zero_add, length_resize, List.nil_append]
    using hfill

/-! ## Which listing is returned -/

/-- The last pass that a scan completes, if it ends: the counting pass if it
finds nothing, or the first filling pass without a link too many. -/
def lastCompletedPass : List Listing → Option Listing
  | [] => none
  | [counted] => if countLinks counted = 0 then some counted else none
  | counted :: filled :: later =>
    if countLinks counted = 0 then some counted
    else if countLinks filled ≤ countLinks counted then some filled
    else lastCompletedPass later

/-- A filling pass that is not cut off finds as many links as were counted, and
only a scan with an empty vector counts none. -/
def Steady : Bool → List Listing → Prop
  | _, [] => True
  | empty, [counted] => countLinks counted = 0 → empty = true
  | empty, counted :: filled :: later =>
    if countLinks counted = 0 then empty = true
    else if countLinks filled ≤ countLinks counted then
      countLinks filled = countLinks counted
    else Steady false later

/-- The vector that a scan returns holds the names of the links of its last
completed pass. -/
def ScanExact (names : List String) (passes : List Listing) : Prop :=
  ∀ result, scan names passes = some result →
    ∃ pass, lastCompletedPass passes = some pass ∧ result = linkNames pass

/-- A scan that counts no link returns the vector as it found it. -/
theorem scanExact_of_zero {names : List String} {passes : List Listing}
    {counted : Listing} (hscan : scan names passes = some names)
    (hpass : lastCompletedPass passes = some counted)
    (hzero : countLinks counted = 0) :
    ScanExact names passes ↔ names.isEmpty = true := by
  have hnone : linkNames counted = [] := (linkNames_eq_nil_iff counted).mpr hzero
  rw [List.isEmpty_iff]
  constructor
  · intro hexact
    obtain ⟨pass, hlast, hnames⟩ := hexact names hscan
    rw [Option.some.inj (hlast.symm.trans hpass)] at hnames
    exact hnames.trans hnone
  · intro hempty result hresult
    refine ⟨counted, hpass, ?_⟩
    rw [← Option.some.inj (hscan.symm.trans hresult), hempty, hnone]

/-- A filling pass with links too few leaves entries of the vector behind the
names. -/
theorem fill_resize_eq_linkNames_iff {ports : Nat} {listing : Listing}
    (hfits : countLinks listing ≤ ports) :
    (fill ports 0 (resize ports names) listing).names = linkNames listing ↔
      countLinks listing = ports := by
  have hdrop : (resize ports names).drop (countLinks listing) = [] ↔
      ports ≤ countLinks listing := by
    rw [List.drop_eq_nil_iff, length_resize]
  rw [fill_resize_of_fits names hfits, List.append_right_eq_self, hdrop]
  exact ⟨Nat.le_antisymm hfits, fun hsame => Nat.le_of_eq hsame.symm⟩

theorem scanExact_iff_steady (passes : List Listing) :
    ScanExact names passes ↔ Steady names.isEmpty passes := by
  -- The scans of a call follow each other like those of `lastCompletedPass`.
  induction passes using lastCompletedPass.induct generalizing names with
  | case1 => exact iff_of_true nofun trivial
  | case2 counted hzero =>
    rw [scanExact_of_zero (by rw [scan, if_pos hzero])
      (by rw [lastCompletedPass, if_pos hzero]) hzero, Steady]
    exact ⟨fun hempty _ => hempty, fun hempty => hempty hzero⟩
  | case3 counted hzero =>
    refine iff_of_true (fun result hresult => ?_) (absurd · hzero)
    rw [scan, if_neg hzero] at hresult
    exact absurd hresult nofun
  | case4 counted filled later hzero =>
    rw [scanExact_of_zero (by rw [scan, if_pos hzero])
      (by rw [lastCompletedPass, if_pos hzero]) hzero, Steady, if_pos hzero]
  | case5 counted filled later hzero hfits =>
    have hscan : scan names (counted :: filled :: later) = some
        (fill (countLinks counted) 0 (resize (countLinks counted) names)
          filled).names := by
      simp only [scan, if_neg hzero, fill_resize_of_fits names hfits,
        Bool.false_eq_true, if_false]
    rw [Steady, if_neg hzero, if_pos hfits,
      ← fill_resize_eq_linkNames_iff names hfits, ScanExact, hscan,
      lastCompletedPass, if_neg hzero, if_pos hfits]
    simp
  | case6 counted filled later hzero hgrown ih =>
    have hgrew := grew_fill (countLinks counted) filled 0
      (resize (countLinks counted) names) (Nat.zero_le _) (by omega)
    have hrest : (fill (countLinks counted) 0
        (resize (countLinks counted) names) filled).names.isEmpty = false := by
      rw [List.isEmpty_eq_false_iff, ← List.length_pos_iff,
        length_names_fill, length_resize]
      exact Nat.pos_of_ne_zero hzero
    rw [Steady, if_neg hzero, if_neg hgrown, ← hrest, ← ih, ScanExact,
      ScanExact, lastCompletedPass, if_neg hzero, if_neg hgrown, scan,
      if_neg hzero]
    simp only [hgrew, if_true]

/-- The names that a call returns are those of the links of its last completed
pass. -/
def NamesExact (names : List String) (passes : List Listing) : Prop :=
  ∀ result, getTypeCPortNamesHelper true names passes =
      some (.success, result) →
    ∃ pass, lastCompletedPass passes = some pass ∧ result = linkNames pass

theorem namesExact_iff_scanExact (passes : List Listing) :
    NamesExact names passes ↔ ScanExact names passes := by
  simp [NamesExact, ScanExact, getTypeCPortNamesHelper]

/-- Whatever the passes see, the names that are returned are those of the last
completed pass exactly when the directory keeps steady. -/
theorem port_names_exact_iff_steady (names : List String)
    (passes : List Listing) :
    NamesExact names passes ↔ Steady names.isEmpty passes :=
  (namesExact_iff_scanExact names passes).trans
    (scanExact_iff_steady names passes)

/-- A port that vanishes between the passes leaves an empty name, and ports that
all vanish after a scan is started again leave a name of the earlier scan. -/
theorem port_names_left_over :
    ¬ NamesExact []
        [[⟨"port0", true⟩, ⟨"port1", true⟩], [⟨"port1", true⟩]] ∧
      ¬ NamesExact []
        [[⟨"port0", true⟩], [⟨"port0", true⟩, ⟨"port1", true⟩], []] := by
  constructor
  · intro hexact
    obtain ⟨pass, hpass, hnames⟩ := hexact ["port1", ""] (by decide)
    obtain rfl : [⟨"port1", true⟩] = pass := Option.some.inj hpass
    exact absurd hnames (by decide)
  · intro hexact
    obtain ⟨pass, hpass, hnames⟩ := hexact ["port0"] (by decide)
    obtain rfl : [] = pass := Option.some.inj hpass
    exact absurd hnames (by decide)

end HardwareInterfaces.Usb

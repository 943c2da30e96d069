import Mathlib

/-!
# The colour node of the LED driver

Each line of the node names one LED: its index is the byte at offset 5, and its
colour, blue first, stands behind the first 11 bytes.  One reader looks for the
line of an index and slices every line on its way without a check, the other one
decodes all lines and skips those it cannot decode.

A text is a list of characters; offsets count bytes of its encoding, and a slice
that ends outside the text or inside a character panics.
-/

namespace HardwareInterfaces.Leds

abbrev Text := List Char

abbrev Color := BitVec 32

/-- The text up to a byte offset and from it on, if a character ends there. -/
def splitAtChecked : Nat → Text → Option (Text × Text)
  | 0, text => some ([], text)
  | _ + 1, [] => none
  | offset + 1, char :: text =>
    if char.utf8Size ≤ offset + 1 then
      (splitAtChecked (offset + 1 - char.utf8Size) text).map fun parts =>
        (char :: parts.1, parts.2)
    else none

/-- The bytes from `first` to `last`; `none` if the slice panics. -/
def slice (first last : Nat) (text : Text) : Option Text := do
  let (_, tail) ← splitAtChecked first text
  let (inside, _) ← splitAtChecked (last - first) tail
  some inside

def toDigit (radix : Nat) (char : Char) : Option Nat :=
  let value :=
    if '0' ≤ char ∧ char ≤ '9' then some (char.toNat - '0'.toNat)
    else if 'a' ≤ char ∧ char ≤ 'z' then some (char.toNat - 'a'.toNat + 10)
    else if 'A' ≤ char ∧ char ≤ 'Z' then some (char.toNat - 'A'.toNat + 10)
    else none
  value.filter (· < radix)

/-- The value of the digits behind a value. -/
def fromDigits (radix : Nat) : Nat → Text → Option Nat
  | value, [] => some value
  | value, char :: text => do
      let digit ← toDigit radix char
      fromDigits radix (value * radix + digit) text

def i32Min : Int := -2 ^ 31
def i32Max : Int := 2 ^ 31 - 1

def checkI32 (value : Int) : Option Int :=
  if i32Min ≤ value ∧ value ≤ i32Max then some value else none

/-- A sign and at least one digit, and no overflow. -/
def fromStrRadix (radix : Nat) : Text → Option Int
  | [] | ['+'] | ['-'] => none
  | '+' :: digits => (fromDigits radix 0 digits).bind (checkI32 ·)
  | '-' :: digits => (fromDigits radix 0 digits).bind (checkI32 <| -·)
  | digits => (fromDigits radix 0 digits).bind (checkI32 ·)

def fromStr (text : Text) : Option Int :=
  fromStrRadix 10 text

/-- The driver has blue first, then red and green. -/
def rgbOfBrg (brg : BitVec 32) : BitVec 32 :=
  let b := (brg &&& 0xFF0000#32).sshiftRight 16
  let r := (brg &&& 0x00FF00#32).sshiftRight 8
  let g := (brg &&& 0x0000FF#32).sshiftRight 0
  r <<< 16 ||| g <<< 8 ||| b <<< 0

def brgOfRgb (color : BitVec 32) : BitVec 32 :=
  let r := (color &&& 0xFF0000#32).sshiftRight 16
  let g := (color &&& 0x00FF00#32).sshiftRight 8
  let b := (color &&& 0x0000FF#32).sshiftRight 0
  b <<< 16 ||| r <<< 8 ||| g <<< 0

def decodeColor (line : Text) : Option Color := do
  let (_, text) ← splitAtChecked 11 line
  let brg ← fromStrRadix 16 text
  some (rgbOfBrg (BitVec.ofInt 32 brg))

/-- The text at the place of the index; `none` if the slice panics. -/
def indexText (line : Text) : Option Text :=
  slice 5 6 line

/-- The search over the lines; `none` if it panics. -/
def findColor (ledIndex : Int) : List Text → Option (Option Color)
  | [] => some none
  | line :: lines => do
      let text ← indexText line
      if fromStr text = some ledIndex then
        match decodeColor line with
        | some color => some (some color)
        | none => findColor ledIndex lines
      else findColor ledIndex lines

/-- The error of the read or the colour of the LED; `none` on a panic. -/
def getColor (read : Except Int Text) (ledIndex : Int) :
    Option (Except Int (Option Color)) :=
  match read with
  | .error error => some (.error error)
  | .ok resp => (findColor ledIndex (resp.splitOn '\n')).map .ok

def getAllColors (read : Except Int Text) : Except Int (List Color) :=
  read.map fun resp => (resp.splitOn '\n').filterMap decodeColor

/-! ## What the two readers agree on -/

/-- The text of lines that each end with a newline. -/
def contentOf (lines : List Text) : Text :=
  lines.flatMap (· ++ ['\n'])

/-- The index of a line, if it has one. -/
def indexOf (line : Text) : Option Int :=
  (indexText line).bind fromStr

/-- A search returns, with nothing for an index that no line has.  For the first
line of an index it returns what the other reader has at the place of that
line. -/
structure Agrees (lines : List Text) (ledIndex : Int) : Prop where
  returns : getColor (.ok (contentOf lines)) ledIndex ≠ none
  absent : (∀ line ∈ lines, indexOf line ≠ some ledIndex) →
    getColor (.ok (contentOf lines)) ledIndex = some (.ok none)
  first : ∀ before line after color, lines = before ++ line :: after →
    (∀ earlier ∈ before, indexOf earlier ≠ some ledIndex) →
    indexOf line = some ledIndex → decodeColor line = some color →
    (∃ colors, getAllColors (.ok (contentOf lines)) = .ok colors ∧
      colors[(before.filterMap decodeColor).length]? = some color) ∧
    getColor (.ok (contentOf lines)) ledIndex = some (.ok (some color))

/-- A line of the index can be decoded, and each line before it can be
sliced. -/
def Found (ledIndex : Int) (lines : List Text) : Prop :=
  ∃ before line after, lines = before ++ line :: after ∧
    (∀ earlier ∈ before, (indexText earlier).isSome = true) ∧
    indexOf line = some ledIndex ∧ (decodeColor line).isSome = true

variable {ledIndex : Int} {line : Text} {lines : List Text} {color : Color}

theorem found_cons_iff :
    Found ledIndex (line :: lines) ↔
      (indexOf line = some ledIndex ∧ (decodeColor line).isSome = true) ∨
      ((indexText line).isSome = true ∧ Found ledIndex lines) := by
  constructor
  · rintro ⟨before, hit, after, heq, hbefore, hhit⟩
    cases before with
    | nil =>
      cases heq
      exact .inl hhit
    | cons first before =>
      cases heq
      rw [List.forall_mem_cons] at hbefore
      exact .inr ⟨hbefore.1, before, hit, after, rfl, hbefore.2, hhit⟩
  · rintro (hhit | ⟨hslice, before, hit, after, rfl, hbefore, hhit⟩)
    · exact ⟨[], line, lines, rfl, nofun, hhit⟩
    · exact ⟨line :: before, hit, after, rfl,
        List.forall_mem_cons.mpr ⟨hslice, hbefore⟩, hhit⟩

theorem findColor_cons_of_panic (htext : indexText line = none)
    (lines : List Text) : findColor ledIndex (line :: lines) = none := by
  rw [findColor, htext]
  rfl

theorem findColor_cons_of_hit (hindex : indexOf line = some ledIndex)
    (hcolor : decodeColor line = some color) (lines : List Text) :
    findColor ledIndex (line :: lines) = some (some color) := by
  obtain ⟨text, htext, hvalue⟩ := Option.bind_eq_some_iff.mp hindex
  simp [findColor, htext, hvalue, hcolor]

theorem findColor_cons_of_skip (htext : (indexText line).isSome = true)
    (hskip : indexOf line = some ledIndex → decodeColor line = none)
    (lines : List Text) :
    findColor ledIndex (line :: lines) = findColor ledIndex lines := by
  obtain ⟨text, htext⟩ := Option.isSome_iff_exists.mp htext
  rw [indexOf, htext, Option.bind_some] at hskip
  by_cases hvalue : fromStr text = some ledIndex
  · simp [findColor, htext, hskip hvalue]
  · simp [findColor, htext, hvalue]

theorem contentOf_eq_intercalate (lines : List Text) :
    contentOf lines = ['\n'].intercalate (lines ++ [[]]) := by
  induction lines with
  | nil => rfl
  | cons line lines ih =>
    have hrest : lines ++ [[]] ≠ [] :=
      List.append_ne_nil_of_right_ne_nil _ (List.cons_ne_nil _ _)
    rw [List.cons_append, List.intercalate_cons_of_ne_nil hrest, ← ih]
    exact List.flatMap_cons

theorem splitOn_contentOf (hlines : ∀ line ∈ lines, '\n' ∉ line) :
    (contentOf lines).splitOn '\n' = lines ++ [[]] := by
  have hempty : ∀ line ∈ lines ++ [[]], '\n' ∉ line := by
    rw [List.forall_mem_append]
    exact ⟨hlines, List.forall_mem_singleton.mpr List.not_mem_nil⟩
  rw [contentOf_eq_intercalate]
  exact List.splitOn_intercalate '\n' hempty
    (List.append_ne_nil_of_right_ne_nil _ (List.cons_ne_nil _ _))

/-- Past the last line there is an empty one, which cannot be sliced. -/
theorem isSome_findColor_iff :
    (findColor ledIndex (lines ++ [[]])).isSome = true ↔
      Found ledIndex lines := by
  induction lines with
  | nil =>
    refine iff_of_false Bool.false_ne_true ?_
    rintro ⟨before, hit, after, heq, -⟩
    exact absurd heq (by simp)
  | cons line lines ih =>
    rw [found_cons_iff, ← ih, List.cons_append]
    by_cases htext : (indexText line).isSome = true
    · by_cases hhit : indexOf line = some ledIndex ∧
          (decodeColor line).isSome = true
      · obtain ⟨color, hcolor⟩ := Option.isSome_iff_exists.mp hhit.2
        rw [findColor_cons_of_hit hhit.1 hcolor]
        exact iff_of_true rfl (.inl hhit)
      · have hskip : indexOf line = some ledIndex →
            decodeColor line = none := fun hindex =>
          Option.not_isSome_iff_eq_none.mp fun hsome => hhit ⟨hindex, hsome⟩
        rw [findColor_cons_of_skip htext hskip]
        exact ⟨fun hrest => .inr ⟨htext, hrest⟩,
          fun hor => (hor.resolve_left hhit).2⟩
    · have hnone := Option.not_isSome_iff_eq_none.mp htext
      rw [findColor_cons_of_panic hnone, indexOf, hnone]
      simp

/-- A search that returns at all returns the colour of the first line of the
index. -/
theorem findColor_of_first {before after : List Text}
    (hbefore : ∀ earlier ∈ before, indexOf earlier ≠ some ledIndex)
    (hindex : indexOf line = some ledIndex)
    (hcolor : decodeColor line = some color)
    (hreturns : findColor ledIndex (before ++ line :: after) ≠ none) :
    findColor ledIndex (before ++ line :: after) = some (some color) := by
  induction before with
  | nil => exact findColor_cons_of_hit hindex hcolor after
  | cons earlier before ih =>
    rw [List.forall_mem_cons] at hbefore
    by_cases htext : (indexText earlier).isSome = true
    · have hskip := findColor_cons_of_skip htext
        (fun hsame => absurd hsame hbefore.1) (before ++ line :: after)
      rw [List.cons_append, hskip] at hreturns ⊢
      exact ih hbefore.2 hreturns
    · have hnone := Option.not_isSome_iff_eq_none.mp htext
      exact absurd (findColor_cons_of_panic hnone _) hreturns

/-- A mask without the sign bit makes the shift a plain one. -/
theorem getLsbD_channel {mask : BitVec 32} (hmask : mask.msb = false)
    (value : BitVec 32) (shift i : Nat) :
    ((value &&& mask).sshiftRight shift).getLsbD i =
      (value.getLsbD (shift + i) && mask.getLsbD (shift + i)) := by
  have hsign : (value &&& mask).msb = false := by
    rw [BitVec.msb_and, hmask, Bool.and_false]
  rw [BitVec.sshiftRight_eq_of_msb_false hsign, BitVec.getLsbD_ushiftRight,
    BitVec.getLsbD_and]

/-- The colour that is set is the colour that is read, without the bits above
its three channels. -/
theorem rgbOfBrg_brgOfRgb (color : BitVec 32) :
    rgbOfBrg (brgOfRgb color) = color &&& 0xFFFFFF#32 := by
  apply BitVec.eq_of_getLsbD_eq
  intro i hi
  have hhigh : (0xFF0000#32).msb = false := by decide
  have hmiddle : (0x00FF00#32).msb = false := by decide
  have hlow : (0x0000FF#32).msb = false := by decide
  simp only [rgbOfBrg, brgOfRgb, BitVec.getLsbD_or, BitVec.getLsbD_shiftLeft,
    getLsbD_channel hhigh, getLsbD_channel hmiddle, getLsbD_channel hlow,
    BitVec.getLsbD_and]
  interval_cases i <;> simp

/-- For lines that each end with a newline, the readers agree on an index
exactly when it is found before a line that cannot be sliced. -/
theorem get_color_agrees_iff_found (lines : List Text)
    (hlines : ∀ line ∈ lines, '\n' ∉ line) (ledIndex : Int) :
    Agrees lines ledIndex ↔ Found ledIndex lines := by
  have hget : getColor (.ok (contentOf lines)) ledIndex =
      (findColor ledIndex (lines ++ [[]])).map .ok := by
    rw [getColor, splitOn_contentOf hlines]
  rw [← isSome_findColor_iff]
  constructor
  · intro hagrees
    have hreturns := hagrees.returns
    rw [hget, Ne, Option.map_eq_none_iff] at hreturns
    exact Option.isSome_iff_ne_none.mpr hreturns
  · intro hsome
    have hreturns := Option.isSome_iff_ne_none.mp hsome
    refine ⟨?_, fun habsent => ?_, ?_⟩
    · rwa [hget, Ne, Option.map_eq_none_iff]
    · obtain ⟨before, hit, after, rfl, -, hindex, -⟩ :=
        isSome_findColor_iff.mp hsome
      exact absurd hindex (habsent hit (by simp))
    · rintro before line after color rfl hbefore hindex hcolor
      refine ⟨⟨_, by rw [getAllColors, Except.map, splitOn_contentOf hlines],
        ?_⟩, ?_⟩
      · simp [List.filterMap_append, hcolor]
      · rw [List.append_assoc, List.cons_append] at hget hreturns
        rw [hget, findColor_of_first hbefore hindex hcolor hreturns]
        rfl

/-- Lines as in a node with two LEDs. -/
def exampleLines : List Text :=
  ["idx: 0 rgb=FF8000".toList, "idx: 1 rgb=0000FF".toList]

theorem agrees_on_second_led :
    (∀ line ∈ exampleLines, '\n' ∉ line) ∧ Agrees exampleLines 1 := by
  have hlines : ∀ line ∈ exampleLines, '\n' ∉ line := by decide
  refine ⟨hlines, (get_color_agrees_iff_found exampleLines hlines 1).mpr ?_⟩
  refine ⟨["idx: 0 rgb=FF8000".toList], "idx: 1 rgb=0000FF".toList, [], rfl, ?_⟩
  decide +kernel

/-- A search for an index that no line has ends in a panic, and so does one that
comes upon a short line before the line of the index. -/
theorem get_color_panics :
    (getColor (.ok (contentOf exampleLines)) 2).isNone = true ∧
      ¬ Agrees exampleLines 2 ∧
      ¬ Agrees ("off".toList :: exampleLines) 1 := by
  refine ⟨by decide +kernel, fun hagrees => ?_, fun hagrees => ?_⟩
  · exact absurd (Option.isNone_iff_eq_none.mp (by decide +kernel))
      hagrees.returns
  · exact absurd (Option.isNone_iff_eq_none.mp (by decide +kernel))
      hagrees.returns

end HardwareInterfaces.Leds

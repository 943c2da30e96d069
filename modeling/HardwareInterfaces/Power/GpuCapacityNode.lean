import HardwareInterfaces.Core.MachineArithmetic

/-!
# The frequency of the GPU

The frequency stands as a decimal number of kilohertz in a file.  Its first
bytes are read into a buffer, in as many pieces as the file gives them, and
parsed; the file is set back to its start for the next time.
-/

namespace HardwareInterfaces.Power

/-! ## The file -/

structure OpenFile where
  content : List UInt8
  offset : Nat
  deriving DecidableEq, Repr

/-- How a call of `read` ends: it fails, or gives a piece of at most `limit`
bytes.  A piece that is not empty is not limited to nothing. -/
inductive ReadCall where
  | failed
  | upTo (limit : Nat) (limit_pos : 0 < limit)

namespace OpenFile

def remaining (file : OpenFile) : List UInt8 := file.content.drop file.offset

/-- The bytes of a call that does not fail. -/
def read (file : OpenFile) (count : Nat) : List UInt8 × OpenFile :=
  let bytes := file.remaining.take count
  (bytes, { file with offset := file.offset + bytes.length })

/-- A call gives the next bytes, and none only at the end of the file. -/
structure Reads (file : OpenFile) (count : Nat) (bytes : List UInt8)
    (next : OpenFile) : Prop where
  content : next.content = file.content
  length_le : bytes.length ≤ count
  append_take : ∀ more, bytes ++ next.remaining.take more =
    file.remaining.take (bytes.length + more)
  nonempty : 0 < count → bytes = [] → file.remaining = []

theorem reads_read (file : OpenFile) (count : Nat) :
    Reads file count (file.read count).1 (file.read count).2 where
  content := rfl
  length_le := List.length_take_le count file.remaining
  append_take := by
    intro more
    have hrest : (file.read count).2.remaining =
        file.remaining.drop (file.read count).1.length := by
      rw [remaining, remaining, List.drop_drop]
      rfl
    have hbytes : (file.read count).1 =
        file.remaining.take (file.read count).1.length := by
      rw [read, List.length_take, ← List.take_eq_take_min]
    rw [hrest, List.take_add]
    exact congrArg (· ++ _) hbytes
  nonempty := by
    intro hcount hread
    rcases List.take_eq_nil_iff.mp hread with hzero | hnil
    · exact absurd hzero hcount.ne'
    · exact hnil

end OpenFile

/-! ## Decimal numbers -/

def isDigit (byte : UInt8) : Bool := 48 ≤ byte.toNat && byte.toNat ≤ 57

/-- The number that the digits denote. -/
def decimalValue (digits : List UInt8) : Nat :=
  digits.foldl (fun value digit => 10 * value + (digit.toNat - 48)) 0

/-- The errors of `std::from_chars`. -/
inductive ParseError where
  | invalidArgument
  | resultOutOfRange
  deriving DecidableEq, Repr

def minusSign : UInt8 := 45

/-- `std::from_chars` for a 32-bit integer. -/
def fromChars (bytes : List UInt8) : Except ParseError Int :=
  let negative := bytes.head? == some minusSign
  let digits := (if negative then bytes.tail else bytes).takeWhile isDigit
  let value : Int :=
    if negative then -decimalValue digits else decimalValue digits
  if digits.isEmpty then .error .invalidArgument
  else if -2 ^ 31 ≤ value ∧ value < 2 ^ 31 then .ok value
  else .error .resultOutOfRange

/-! ## The frequency -/

namespace GpuCapacityNode

def bufferSize : Nat := 16

def effectiveSize : Nat := bufferSize - 1

/-- The loop that fills the buffer; `calls` says how the calls of `read` end,
from the one with number `index` on.  `none` is a failed call. -/
def readLoop (calls : Nat → ReadCall) (index : Nat) (buffer : List UInt8)
    (file : OpenFile) : Option (List UInt8) × OpenFile :=
  match calls index with
  | .failed => (none, file)
  | .upTo limit _ =>
    let (bytes, file) := file.read (min (effectiveSize - buffer.length) limit)
    if bytes = [] then (some buffer, file)
    else if (buffer ++ bytes).length < effectiveSize then
      readLoop calls (index + 1) (buffer ++ bytes) file
    else (some (buffer ++ bytes), file)
termination_by effectiveSize - buffer.length
decreasing_by
  rename_i hbytes hmore
  have hpos := List.length_pos_iff.mpr hbytes
  rw [List.length_append] at hmore ⊢
  omega

/-- What a call of `gpu_frequency` comes to. -/
inductive Outcome where
  | frequency (value : Int)
  | noValue
  /-- The product does not fit in an `int`. -/
  | overflow
  deriving DecidableEq, Repr

/-- The buffer beyond the bytes read holds zeros. -/
def padded (bytes : List UInt8) : List UInt8 :=
  bytes ++ List.replicate (bufferSize - bytes.length) 0

def frequencyOf (frequencyRaw : Int) : Outcome :=
  if frequencyRaw * 1000 < 2 ^ 31 then .frequency (frequencyRaw * 1000)
  else .overflow

def parse (buffer : List UInt8) : Outcome :=
  match fromChars buffer with
  | .error _ => .noValue
  | .ok frequencyRaw =>
    if frequencyRaw ≤ 0 then .noValue else frequencyOf frequencyRaw

/-- `seek` says whether the file can be set back. -/
def gpuFrequency (calls : Nat → ReadCall) (seek : Bool) (file : OpenFile) :
    Outcome × OpenFile :=
  match readLoop calls 0 [] file with
  | (none, file) => (.noValue, file)
  | (some bytes, file) =>
    if seek then (parse (padded bytes), { file with offset := 0 })
    else (.noValue, file)

/-! ## Reading -/

/-- However the calls split the file, the loop reads as much of it as the
buffer can take. -/
theorem readLoop_eq {calls : Nat → ReadCall}
    (hcalls : ∀ index, calls index ≠ .failed) {index : Nat}
    {buffer : List UInt8} {file : OpenFile}
    (hbuffer : buffer.length < effectiveSize) :
    ∃ offset, readLoop calls index buffer file =
      (some (buffer ++
          file.remaining.take (effectiveSize - buffer.length)),
        { file with offset }) := by
  induction hspace : effectiveSize - buffer.length using
    Nat.strong_induction_on generalizing index buffer file with
  | h space ih =>
    rw [readLoop]
    cases hcall : calls index with
    | failed => exact absurd hcall (hcalls index)
    | upTo limit limit_pos =>
      have hspace_pos : 0 < space := by omega
      obtain ⟨bytes, next, hread, hreads⟩ : ∃ bytes next,
          file.read (min space limit) = (bytes, next) ∧
            file.Reads (min space limit) bytes next :=
        ⟨_, _, rfl, file.reads_read (min space limit)⟩
      simp only [hspace, hread]
      have hnext : ∀ offset, ({ next with offset } : OpenFile) =
          { file with offset } := by
        intro offset
        rw [hreads.content]
      split_ifs with hbytes hmore
      · have hend : file.remaining = [] :=
          hreads.nonempty (lt_min hspace_pos limit_pos) hbytes
        refine ⟨next.offset, ?_⟩
        rw [hend, List.take_nil, List.append_nil, ← hnext]
      · have hpos := List.length_pos_iff.mpr hbytes
        rw [List.length_append] at hmore
        obtain ⟨offset, hrest⟩ := @ih (space - bytes.length) (by omega)
          (index + 1) (buffer ++ bytes) next
          (by rw [List.length_append]; exact hmore)
          (by rw [List.length_append]; omega)
        refine ⟨offset, ?_⟩
        rw [hrest, hnext, List.append_assoc, hreads.append_take,
          Nat.add_sub_cancel' (by omega)]
      · rw [List.length_append, not_lt] at hmore
        have hfull : bytes.length = space := by
          have := hreads.length_le.trans (min_le_left space limit)
          omega
        have hbytes' := hreads.append_take 0
        rw [List.take_zero, List.append_nil, Nat.add_zero, hfull] at hbytes'
        refine ⟨next.offset, ?_⟩
        rw [← hbytes', ← hnext]

/-- The outcome depends on the first bytes of the file only, and the file is
at its start again. -/
theorem gpuFrequency_eq {calls : Nat → ReadCall}
    (hcalls : ∀ index, calls index ≠ .failed) (content : List UInt8) :
    gpuFrequency calls true ⟨content, 0⟩ =
      (parse (padded (content.take effectiveSize)), ⟨content, 0⟩) := by
  obtain ⟨offset, hread⟩ := @readLoop_eq calls hcalls 0 [] ⟨content, 0⟩
    (by decide)
  rw [gpuFrequency, hread]
  rfl

/-! ## Parsing -/

/-- The bytes start with digits for the number, and no further digit. -/
def StartsWith (bytes : List UInt8) (number : Nat) : Prop :=
  ∃ digits rest, bytes = digits ++ rest ∧ digits ≠ [] ∧
    (∀ digit ∈ digits, isDigit digit = true) ∧
    (∀ next ∈ rest.head?, isDigit next = false) ∧
    decimalValue digits = number

theorem startsWith_iff (bytes : List UInt8) (number : Nat) :
    StartsWith bytes number ↔
      bytes.takeWhile isDigit ≠ [] ∧
        decimalValue (bytes.takeWhile isDigit) = number := by
  constructor
  · rintro ⟨digits, rest, rfl, hne, hdigits, hrest, hvalue⟩
    have hstop : rest.takeWhile isDigit = [] := by
      cases rest with
      | nil => rfl
      | cons next rest =>
        rw [List.takeWhile_cons_of_neg]
        rw [hrest next rfl]
        exact Bool.false_ne_true
    rw [List.takeWhile_append_of_pos hdigits, hstop, List.append_nil]
    exact ⟨hne, hvalue⟩
  · rintro ⟨hne, hvalue⟩
    refine ⟨bytes.takeWhile isDigit, bytes.dropWhile isDigit,
      List.takeWhile_append_dropWhile.symm, hne, ?_, ?_, hvalue⟩
    · intro digit hdigit
      exact List.mem_takeWhile_imp hdigit
    · intro next hnext
      have hhead := List.head?_dropWhile_not isDigit bytes
      rw [Option.mem_def.mp hnext] at hhead
      simpa using hhead

/-- Zeros after the bytes are no digits. -/
theorem takeWhile_isDigit_padded (bytes : List UInt8) :
    (padded bytes).takeWhile isDigit = bytes.takeWhile isDigit := by
  have hzeros : ∀ count,
      (List.replicate count (0 : UInt8)).takeWhile isDigit = [] := by
    intro count
    cases count <;> rfl
  rw [padded, List.takeWhile_append, hzeros, List.append_nil]
  split_ifs with hall
  · exact ((List.takeWhile_sublist isDigit).eq_of_length hall).symm
  · rfl

/-- A number that starts with a sign is not positive. -/
theorem parse_of_minusSign {buffer : List UInt8}
    (hsign : buffer.head? = some minusSign) : parse buffer = .noValue := by
  rw [parse, fromChars, hsign]
  simp only [beq_self_eq_true, if_true]
  split_ifs <;> simp

theorem parse_of_not_minusSign {buffer : List UInt8}
    (hsign : buffer.head? ≠ some minusSign) :
    parse buffer =
      if buffer.takeWhile isDigit ≠ [] ∧
          0 < decimalValue (buffer.takeWhile isDigit) ∧
          decimalValue (buffer.takeWhile isDigit) < 2 ^ 31 then
        frequencyOf (decimalValue (buffer.takeWhile isDigit))
      else .noValue := by
  have hplain : (buffer.head? == some minusSign) = false := by
    simpa using hsign
  rw [parse, fromChars, hplain]
  simp only [Bool.false_eq_true, if_false, List.isEmpty_iff]
  generalize buffer.takeWhile isDigit = digits
  by_cases hdigits : digits = []
  · simp [hdigits]
  · rw [if_neg hdigits]
    by_cases hrange : decimalValue digits < 2 ^ 31
    · rw [if_pos (by omega)]
      simp only
      by_cases hzero : decimalValue digits = 0
      · rw [if_pos (by omega), if_neg (by omega)]
      · rw [if_neg (by omega), if_pos ⟨hdigits, by omega, hrange⟩]
    · rw [if_neg (by omega), if_neg fun hgood => hrange hgood.2.2]

theorem parse_padded (bytes : List UInt8) :
    parse (padded bytes) =
      if bytes.takeWhile isDigit ≠ [] ∧
          0 < decimalValue (bytes.takeWhile isDigit) ∧
          decimalValue (bytes.takeWhile isDigit) < 2 ^ 31 then
        frequencyOf (decimalValue (bytes.takeWhile isDigit))
      else .noValue := by
  by_cases hsign : (padded bytes).head? = some minusSign
  · obtain ⟨rest, hrest⟩ := List.head?_eq_some_iff.mp hsign
    have hdigits : bytes.takeWhile isDigit = [] := by
      rw [← takeWhile_isDigit_padded, hrest]
      rfl
    rw [parse_of_minusSign hsign, if_neg fun hgood => hgood.1 hdigits]
  · rw [parse_of_not_minusSign hsign, takeWhile_isDigit_padded]

theorem frequencyOf_eq_frequency_iff (frequencyRaw : Int) :
    frequencyOf frequencyRaw = .frequency (frequencyRaw * 1000) ↔
      frequencyRaw * 1000 < 2 ^ 31 := by
  rw [frequencyOf]
  split_ifs with hfits
  · exact iff_of_true rfl hfits
  · exact iff_of_false nofun hfits

/-! ## Every file -/

/-- What is to come of a file: a number of kilohertz gives so many hertz, and
anything else no value. -/
structure Answers (content : List UInt8) (outcome : Outcome) : Prop where
  number : ∀ number : Nat, StartsWith (content.take effectiveSize) number →
    0 < number → number < 2 ^ 31 → outcome = .frequency (number * 1000)
  otherwise : (¬ ∃ number, StartsWith (content.take effectiveSize) number ∧
    0 < number ∧ number < 2 ^ 31) → outcome = .noValue

theorem answers_parse_iff (content : List UInt8) :
    Answers content (parse (padded (content.take effectiveSize))) ↔
      ∀ number, StartsWith (content.take effectiveSize) number →
        number < 2 ^ 31 → number * 1000 < 2 ^ 31 := by
  rw [parse_padded]
  split_ifs with hgood
  · constructor
    · intro hanswers number hnumber hlt
      have houtcome := hanswers.number number hnumber
      obtain ⟨-, rfl⟩ := (startsWith_iff _ _).mp hnumber
      exact_mod_cast (frequencyOf_eq_frequency_iff _).mp
        (houtcome hgood.2.1 hlt)
    · intro hfits
      constructor
      · intro number hnumber _ hlt
        have hproduct := hfits number hnumber hlt
        obtain ⟨-, rfl⟩ := (startsWith_iff _ _).mp hnumber
        exact (frequencyOf_eq_frequency_iff _).mpr (by exact_mod_cast hproduct)
      · intro hnone
        exact absurd ⟨_, (startsWith_iff _ _).mpr ⟨hgood.1, rfl⟩, hgood.2⟩ hnone
  · refine iff_of_true ⟨?_, fun _ => rfl⟩ ?_
    · intro number hnumber hpos hlt
      obtain ⟨hne, rfl⟩ := (startsWith_iff _ _).mp hnumber
      exact absurd ⟨hne, hpos, hlt⟩ hgood
    · intro number hnumber hlt
      obtain ⟨hne, rfl⟩ := (startsWith_iff _ _).mp hnumber
      have hzero : ¬ 0 < decimalValue _ := fun hpos => hgood ⟨hne, hpos, hlt⟩
      omega

/-- However the reads split the file, the outcome is the same.  It is the
frequency of the file exactly when the product with a thousand fits, for the
number that the file starts with if that is an `int`. -/
theorem frequency_of_file_iff_product_fits (content : List UInt8)
    (calls : Nat → ReadCall) (hcalls : ∀ index, calls index ≠ .failed) :
    (∀ calls', (∀ index, calls' index ≠ .failed) →
      gpuFrequency calls' true ⟨content, 0⟩ =
        gpuFrequency calls true ⟨content, 0⟩) ∧
    (Answers content (gpuFrequency calls true ⟨content, 0⟩).1 ↔
      ∀ number, StartsWith (content.take effectiveSize) number →
        number < 2 ^ 31 → number * 1000 < 2 ^ 31) := by
  constructor
  · intro calls' hcalls'
    rw [gpuFrequency_eq hcalls, gpuFrequency_eq hcalls']
  · rw [gpuFrequency_eq hcalls]
    exact answers_parse_iff content

/-- One byte for each call. -/
def byteByByte (_ : Nat) : ReadCall := .upTo 1 Nat.one_pos

def bytesOf (text : String) : List UInt8 := text.toUTF8.toList

theorem frequency_of_950_megahertz :
    gpuFrequency byteByByte true ⟨bytesOf "950000\n", 0⟩ =
        (.frequency 950000000, ⟨bytesOf "950000\n", 0⟩) ∧
      Answers (bytesOf "950000\n")
        (gpuFrequency byteByByte true ⟨bytesOf "950000\n", 0⟩).1 := by
  refine ⟨by decide +kernel,
    (frequency_of_file_iff_product_fits _ byteByByte (fun _ => nofun)).2.mpr ?_⟩
  intro number hnumber _
  obtain ⟨-, rfl⟩ := (startsWith_iff _ _).mp hnumber
  decide +kernel

/-- The number is an `int`, but not the product. -/
theorem no_frequency_of_2147484_kilohertz :
    StartsWith ((bytesOf "2147484\n").take effectiveSize) 2147484 ∧
      (gpuFrequency byteByByte true ⟨bytesOf "2147484\n", 0⟩).1 = .overflow ∧
      ¬ Answers (bytesOf "2147484\n")
        (gpuFrequency byteByByte true ⟨bytesOf "2147484\n", 0⟩).1 := by
  have hstarts : StartsWith ((bytesOf "2147484\n").take effectiveSize) 2147484 :=
    (startsWith_iff _ _).mpr (by decide +kernel)
  have hoverflow :
      (gpuFrequency byteByByte true ⟨bytesOf "2147484\n", 0⟩).1 = .overflow := by
    decide +kernel
  refine ⟨hstarts, hoverflow, fun hanswers => ?_⟩
  have hvalue := hanswers.number 2147484 hstarts (by decide) (by decide)
  rw [hoverflow] at hvalue
  exact nomatch hvalue

end GpuCapacityNode

end HardwareInterfaces.Power

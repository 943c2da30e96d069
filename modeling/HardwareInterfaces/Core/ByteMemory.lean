import Mathlib

/-!
# Memory of bytes

A number of a fixed width is a list of bytes, the least significant one first,
and swapping its bytes reverses that list.  Memory has a byte at each address,
together with a mark that says whether it was ever written; a write of a list of
bytes touches the addresses it covers and no other one.
-/

namespace HardwareInterfaces.ByteMemory

/-! ## Numbers as bytes -/

/-- The bytes of a number, least significant first. -/
def toBytes : (width : Nat) → Nat → List UInt8
  | 0, _ => []
  | width + 1, value =>
    UInt8.ofNat value :: toBytes width (value / 256)

def ofBytes : List UInt8 → Nat
  | [] => 0
  | byte :: bytes => byte.toNat + 256 * ofBytes bytes

@[simp]
theorem length_toBytes (width value : Nat) :
    (toBytes width value).length = width := by
  induction width generalizing value with
  | zero => rfl
  | succ width ih => rw [toBytes, List.length_cons, ih]

theorem ofBytes_lt (bytes : List UInt8) :
    ofBytes bytes < 256 ^ bytes.length := by
  induction bytes with
  | nil => exact Nat.one_pos
  | cons byte bytes ih =>
    have hbyte : byte.toNat < 256 := byte.toNat_lt
    rw [ofBytes, List.length_cons, Nat.pow_succ]
    omega

theorem ofBytes_toBytes {width value : Nat} (hvalue : value < 256 ^ width) :
    ofBytes (toBytes width value) = value := by
  induction width generalizing value with
  | zero =>
    rw [Nat.pow_zero, Nat.lt_one_iff] at hvalue
    rw [hvalue]
    rfl
  | succ width ih =>
    rw [Nat.pow_succ, Nat.mul_comm] at hvalue
    rw [toBytes, ofBytes, ih (Nat.div_lt_of_lt_mul hvalue), UInt8.toNat_ofNat']
    exact Nat.mod_add_div value 256

theorem toBytes_ofBytes (bytes : List UInt8) :
    toBytes bytes.length (ofBytes bytes) = bytes := by
  induction bytes with
  | nil => rfl
  | cons byte bytes ih =>
    have hbyte : byte.toNat < 256 := byte.toNat_lt
    have hhigh : (byte.toNat + 256 * ofBytes bytes) / 256 =
        ofBytes bytes := by omega
    have hlow : UInt8.ofNat (byte.toNat + 256 * ofBytes bytes) = byte := by
      apply UInt8.toNat_inj.mp
      rw [UInt8.toNat_ofNat']
      omega
    rw [List.length_cons, toBytes, ofBytes, hlow, hhigh, ih]

/-- The number whose bytes stand the other way round. -/
def byteSwap (width value : Nat) : Nat :=
  ofBytes (toBytes width value).reverse

theorem byteSwap_lt (width value : Nat) :
    byteSwap width value < 256 ^ width := by
  have hlt := ofBytes_lt (toBytes width value).reverse
  rwa [List.length_reverse, length_toBytes] at hlt

theorem byteSwap_byteSwap {width value : Nat} (hvalue : value < 256 ^ width) :
    byteSwap width (byteSwap width value) = value := by
  have hbytes := toBytes_ofBytes (toBytes width value).reverse
  rw [List.length_reverse, length_toBytes] at hbytes
  rw [byteSwap, byteSwap, hbytes, List.reverse_reverse, ofBytes_toBytes hvalue]

/-! ## Writes and reads -/

/-- A byte at each address, and whether it was written. -/
structure Memory where
  byte : Nat → UInt8
  written : Nat → Bool

namespace Memory

variable (memory : Memory)

def write (address : Nat) (bytes : List UInt8) : Memory where
  byte at_ :=
    if address ≤ at_ then bytes.getD (at_ - address) (memory.byte at_)
    else memory.byte at_
  written at_ :=
    (decide (address ≤ at_) && decide (at_ < address + bytes.length)) ||
      memory.written at_

def read (address count : Nat) : List UInt8 :=
  (List.range count).map fun index => memory.byte (address + index)

@[simp]
theorem length_read (address count : Nat) :
    (memory.read address count).length = count := by
  rw [read, List.length_map, List.length_range]

variable {memory} {address : Nat} {bytes : List UInt8}

variable {other : Nat}

theorem byte_write_of_outside
    (hoff : other < address ∨ address + bytes.length ≤ other) :
    (memory.write address bytes).byte other = memory.byte other := by
  rw [write]
  dsimp only
  split_ifs with hle
  · have hend : bytes.length ≤ other - address := by omega
    rw [List.getD_eq_getElem?_getD, List.getElem?_eq_none hend,
      Option.getD_none]
  · rfl

theorem written_write_of_outside
    (hoff : other < address ∨ address + bytes.length ≤ other) :
    (memory.write address bytes).written other = memory.written other := by
  have hout : ¬ (address ≤ other ∧ other < address + bytes.length) := by omega
  simp [write, ← Bool.decide_and, hout]

theorem written_write_of_inside (hle : address ≤ other)
    (hlt : other < address + bytes.length) :
    (memory.write address bytes).written other = true := by
  simp [write, hle, hlt]

theorem read_write (memory : Memory) (address : Nat) (bytes : List UInt8) :
    (memory.write address bytes).read address bytes.length = bytes := by
  apply List.ext_getElem (length_read _ _ _)
  intro index hread hindex
  simp [read, write, hindex]

theorem read_write_of_outside {count : Nat}
    (hoff : other + count ≤ address ∨ address + bytes.length ≤ other) :
    (memory.write address bytes).read other count =
      memory.read other count := by
  rw [read, read]
  apply List.map_congr_left
  intro index hindex
  rw [List.mem_range] at hindex
  apply byte_write_of_outside
  omega

end Memory

/-! ## Fields of a record -/

/-- Where a field stands, and how many bytes it has. -/
structure Field where
  offset : Nat
  width : Nat
  deriving DecidableEq, Repr

/-- The first field ends before the second one begins. -/
def Field.Before (first second : Field) : Prop :=
  first.offset + first.width ≤ second.offset

instance : DecidableRel Field.Before :=
  fun first second =>
    inferInstanceAs (Decidable (first.offset + first.width ≤ second.offset))

namespace Memory

def store (memory : Memory) (field : Field) (value : Nat) : Memory :=
  memory.write field.offset (toBytes field.width value)

def load (memory : Memory) (field : Field) : Nat :=
  ofBytes (memory.read field.offset field.width)

/-- Stores the fields one after the other. -/
def storeAll (memory : Memory) (entries : List (Field × Nat)) : Memory :=
  entries.foldl (fun memory entry => memory.store entry.1 entry.2) memory

variable {memory : Memory} {field : Field} {value : Nat}

theorem load_eq_of_read (hvalue : value < 256 ^ field.width)
    (hread : memory.read field.offset field.width =
      toBytes field.width value) : memory.load field = value := by
  rw [load, hread, ofBytes_toBytes hvalue]

section

variable (memory : Memory) (field : Field)

theorem toBytes_load :
    toBytes field.width (memory.load field) =
      memory.read field.offset field.width := by
  have hbytes := toBytes_ofBytes (memory.read field.offset field.width)
  rwa [length_read] at hbytes

theorem load_lt : memory.load field < 256 ^ field.width := by
  have hlt := ofBytes_lt (memory.read field.offset field.width)
  rwa [length_read] at hlt

theorem read_store (value : Nat) :
    (memory.store field value).read field.offset field.width =
      toBytes field.width value := by
  have hread := memory.read_write field.offset (toBytes field.width value)
  rwa [length_toBytes] at hread

end

variable {entries : List (Field × Nat)}

theorem read_storeAll_of_before
    (hbefore : ∀ entry ∈ entries, field.Before entry.1) :
    (memory.storeAll entries).read field.offset field.width =
      memory.read field.offset field.width := by
  induction entries generalizing memory with
  | nil => rfl
  | cons entry entries ih =>
    rw [List.forall_mem_cons] at hbefore
    rw [storeAll, List.foldl_cons]
    exact (ih hbefore.2).trans (read_write_of_outside (.inl hbefore.1))

/-- Fields that follow each other keep what is stored in them. -/
theorem read_storeAll
    (hordered : entries.Pairwise fun first second => first.1.Before second.1)
    (hentry : (field, value) ∈ entries) :
    (memory.storeAll entries).read field.offset field.width =
      toBytes field.width value := by
  induction entries generalizing memory with
  | nil => exact absurd hentry List.not_mem_nil
  | cons entry entries ih =>
    rw [List.pairwise_cons] at hordered
    rw [storeAll, List.foldl_cons]
    rcases List.mem_cons.mp hentry with rfl | hlater
    · exact (read_storeAll_of_before hordered.1).trans
        (read_store memory field value)
    · exact ih hordered.2 hlater

/-- An address behind all the fields is not touched. -/
theorem storeAll_of_behind {address : Nat}
    (hbehind : ∀ entry ∈ entries, entry.1.offset + entry.1.width ≤ address) :
    (memory.storeAll entries).byte address = memory.byte address ∧
      (memory.storeAll entries).written address = memory.written address := by
  induction entries generalizing memory with
  | nil => exact ⟨rfl, rfl⟩
  | cons entry entries ih =>
    rw [List.forall_mem_cons] at hbehind
    have hoff : entry.1.offset +
        (toBytes entry.1.width entry.2).length ≤ address := by
      rw [length_toBytes]
      exact hbehind.1
    obtain ⟨hbyte, hwritten⟩ := @ih (memory.store entry.1 entry.2) hbehind.2
    rw [storeAll, List.foldl_cons]
    exact ⟨hbyte.trans (byte_write_of_outside (.inr hoff)),
      hwritten.trans (written_write_of_outside (.inr hoff))⟩

end Memory

end HardwareInterfaces.ByteMemory

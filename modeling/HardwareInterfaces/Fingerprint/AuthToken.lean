import HardwareInterfaces.Core.ByteMemory

/-!
# Authentication tokens for the vendor library

The framework's token is copied field by field into the packed record of the
vendor library, and back.  The type of the authenticator and the time stamp are
in network order there.  The authentication code has a length of its own in the
framework's token, and 32 bytes in the record; it is copied as long as it is.

The record stands at address 0 of a memory.  It is a local variable, so that
nothing in it is written before the translation.
-/

namespace HardwareInterfaces.Fingerprint

open ByteMemory

structure HardwareAuthToken where
  challenge : Int64
  userId : Int64
  authenticatorId : Int64
  authenticatorType : Int32
  milliSeconds : Int64
  mac : List UInt8
  deriving DecidableEq

/-! ## The packed record -/

namespace HwAuthToken

def challenge : Field := ⟨1, 8⟩
def userId : Field := ⟨9, 8⟩
def authenticatorId : Field := ⟨17, 8⟩
def authenticatorType : Field := ⟨25, 4⟩
def timestamp : Field := ⟨29, 8⟩
def hmac : Field := ⟨37, 32⟩
def size : Nat := 69

end HwAuthToken

def swap32 (value : UInt32) : UInt32 :=
  UInt32.ofNat (byteSwap 4 value.toNat)

def swap64 (value : UInt64) : UInt64 :=
  UInt64.ofNat (byteSwap 8 value.toNat)

/-- The host has the least significant byte first. -/
def htobe32 : UInt32 → UInt32 := swap32

def be32toh : UInt32 → UInt32 := swap32

def htobe64 : UInt64 → UInt64 := swap64

def be64toh : UInt64 → UInt64 := swap64

/-- The assignments of the translation to the fields of the record. -/
def assignments (authToken : HardwareAuthToken) : List (Field × Nat) :=
  [(HwAuthToken.challenge, authToken.challenge.toUInt64.toNat),
    (HwAuthToken.userId, authToken.userId.toUInt64.toNat),
    (HwAuthToken.authenticatorId, authToken.authenticatorId.toUInt64.toNat),
    (HwAuthToken.authenticatorType,
      (htobe32 authToken.authenticatorType.toUInt32).toNat),
    (HwAuthToken.timestamp, (htobe64 authToken.milliSeconds.toUInt64).toNat)]

/-- To the record of the vendor library. -/
def translate (authToken : HardwareAuthToken) (memory : Memory) : Memory :=
  (memory.storeAll (assignments authToken)).write HwAuthToken.hmac.offset
    authToken.mac

/-- From the record of the vendor library; the code is inserted before the one
that the token has. -/
def translateBack (memory : Memory) (authToken : HardwareAuthToken) :
    HardwareAuthToken where
  challenge := (UInt64.ofNat (memory.load HwAuthToken.challenge)).toInt64
  userId := (UInt64.ofNat (memory.load HwAuthToken.userId)).toInt64
  authenticatorId :=
    (UInt64.ofNat (memory.load HwAuthToken.authenticatorId)).toInt64
  authenticatorType :=
    (be32toh (UInt32.ofNat
      (memory.load HwAuthToken.authenticatorType))).toInt32
  milliSeconds :=
    (be64toh (UInt64.ofNat (memory.load HwAuthToken.timestamp))).toInt64
  mac := memory.read HwAuthToken.hmac.offset HwAuthToken.hmac.width ++
    authToken.mac

/-- A token as it is constructed. -/
def HardwareAuthToken.empty : HardwareAuthToken :=
  ⟨0, 0, 0, 0, 0, []⟩

/-! ## What the record holds -/

section

variable (authToken : HardwareAuthToken)

theorem assignments_ordered :
    (assignments authToken).Pairwise fun first second =>
      first.1.Before second.1 := by
  simp [assignments, Field.Before, HwAuthToken.challenge, HwAuthToken.userId,
    HwAuthToken.authenticatorId, HwAuthToken.authenticatorType,
    HwAuthToken.timestamp]

theorem assignments_fit :
    ∀ entry ∈ assignments authToken, entry.2 < 256 ^ entry.1.width := by
  simp only [assignments, List.forall_mem_cons]
  refine ⟨UInt64.toNat_lt _, UInt64.toNat_lt _, UInt64.toNat_lt _,
    UInt32.toNat_lt _, UInt64.toNat_lt _, nofun⟩

theorem assignments_before_hmac :
    ∀ entry ∈ assignments authToken, entry.1.Before HwAuthToken.hmac := by
  simp only [assignments, List.forall_mem_cons]
  decide

end

section

variable {authToken : HardwareAuthToken} {field : Field} {value : Nat}
  (hentry : (field, value) ∈ assignments authToken) (memory : Memory)
include hentry

theorem read_translate :
    (translate authToken memory).read field.offset field.width =
      toBytes field.width value := by
  rw [translate, Memory.read_write_of_outside
    (.inl (assignments_before_hmac authToken _ hentry))]
  exact Memory.read_storeAll (assignments_ordered authToken) hentry

theorem load_translate : (translate authToken memory).load field = value :=
  Memory.load_eq_of_read (assignments_fit authToken _ hentry)
    (read_translate hentry memory)

end

theorem swap32_swap32 (value : UInt32) : swap32 (swap32 value) = value := by
  have hlt : byteSwap 4 value.toNat < 2 ^ 32 := byteSwap_lt 4 value.toNat
  have hvalue : value.toNat < 256 ^ 4 := value.toNat_lt
  rw [swap32, swap32, UInt32.toNat_ofNat_of_lt' hlt,
    byteSwap_byteSwap hvalue, UInt32.ofNat_toNat]

theorem swap64_swap64 (value : UInt64) : swap64 (swap64 value) = value := by
  have hlt : byteSwap 8 value.toNat < 2 ^ 64 := byteSwap_lt 8 value.toNat
  have hvalue : value.toNat < 256 ^ 8 := value.toNat_lt
  rw [swap64, swap64, UInt64.toNat_ofNat_of_lt' hlt,
    byteSwap_byteSwap hvalue, UInt64.ofNat_toNat]

/-! ## There and back -/

/-- The fields besides the code are the same. -/
structure SameFields (left right : HardwareAuthToken) : Prop where
  challenge : left.challenge = right.challenge
  userId : left.userId = right.userId
  authenticatorId : left.authenticatorId = right.authenticatorId
  authenticatorType : left.authenticatorType = right.authenticatorType
  milliSeconds : left.milliSeconds = right.milliSeconds

theorem sameFields_translateBack_translate (authToken : HardwareAuthToken)
    (memory : Memory) (target : HardwareAuthToken) :
    SameFields (translateBack (translate authToken memory) target)
      authToken where
  challenge := by
    rw [translateBack, load_translate (.head _), UInt64.ofNat_toNat]
    rfl
  userId := by
    rw [translateBack, load_translate (.tail _ (.head _)), UInt64.ofNat_toNat]
    rfl
  authenticatorId := by
    rw [translateBack, load_translate (.tail _ (.tail _ (.head _))),
      UInt64.ofNat_toNat]
    rfl
  authenticatorType := by
    rw [translateBack, load_translate (.tail _ (.tail _ (.tail _ (.head _)))),
      UInt32.ofNat_toNat]
    exact congrArg UInt32.toInt32 (swap32_swap32 _)
  milliSeconds := by
    rw [translateBack,
      load_translate (.tail _ (.tail _ (.tail _ (.tail _ (.head _))))),
      UInt64.ofNat_toNat]
    exact congrArg UInt64.toInt64 (swap64_swap64 _)

theorem mac_translateBack_translate {authToken : HardwareAuthToken}
    (hmac : authToken.mac.length = HwAuthToken.hmac.width) (memory : Memory) :
    (translateBack (translate authToken memory) .empty).mac =
      authToken.mac := by
  rw [translateBack, translate, ← hmac, Memory.read_write]
  exact List.append_nil authToken.mac

/-- The fields that the translation assigns. -/
def assignedFields : List Field :=
  [HwAuthToken.challenge, HwAuthToken.userId, HwAuthToken.authenticatorId,
    HwAuthToken.authenticatorType, HwAuthToken.timestamp]

theorem toNat_ofNat_load64 (memory : Memory) {field : Field}
    (hwidth : field.width = 8) :
    (UInt64.ofNat (memory.load field)).toNat = memory.load field := by
  have hlt := memory.load_lt field
  rw [hwidth] at hlt
  exact UInt64.toNat_ofNat_of_lt' hlt

/-- What is assigned from a translated record is what its fields hold. -/
theorem assignments_translateBack (memory : Memory)
    (target : HardwareAuthToken) :
    assignments (translateBack memory target) =
      assignedFields.map fun field => (field, memory.load field) := by
  have htype : (htobe32 (be32toh (UInt32.ofNat
      (memory.load HwAuthToken.authenticatorType))).toInt32.toUInt32).toNat =
        memory.load HwAuthToken.authenticatorType :=
    (congrArg UInt32.toNat (swap32_swap32 _)).trans
      (UInt32.toNat_ofNat_of_lt' (memory.load_lt _))
  have htime : (htobe64 (be64toh (UInt64.ofNat
      (memory.load HwAuthToken.timestamp))).toInt64.toUInt64).toNat =
        memory.load HwAuthToken.timestamp :=
    (congrArg UInt64.toNat (swap64_swap64 _)).trans
      (toNat_ofNat_load64 memory rfl)
  rw [assignments, translateBack, htype, htime]
  simp only [UInt64.toUInt64_toInt64, assignedFields, List.map_cons,
    List.map_nil]
  rw [toNat_ofNat_load64 memory (rfl : HwAuthToken.challenge.width = 8),
    toNat_ofNat_load64 memory (rfl : HwAuthToken.userId.width = 8),
    toNat_ofNat_load64 memory (rfl : HwAuthToken.authenticatorId.width = 8)]

/-- A record that is translated to a token and back keeps the bytes of its
fields; only the version is lost. -/
theorem fields_translate_translateBack (memory other : Memory) :
    (assignedFields ++ [HwAuthToken.hmac]).map (fun field =>
        (translate (translateBack memory .empty) other).read field.offset
          field.width) =
      (assignedFields ++ [HwAuthToken.hmac]).map fun field =>
        memory.read field.offset field.width := by
  apply List.map_congr_left
  intro field hfield
  rcases List.mem_append.mp hfield with hfield | hfield
  · rw [← memory.toBytes_load]
    apply read_translate
    rw [assignments_translateBack]
    exact List.mem_map_of_mem hfield
  · obtain rfl := List.mem_singleton.mp hfield
    have hback : (translateBack memory .empty).mac =
        memory.read HwAuthToken.hmac.offset HwAuthToken.hmac.width :=
      List.append_nil _
    have hread := (other.storeAll (assignments (translateBack memory .empty)))
      |>.read_write HwAuthToken.hmac.offset (translateBack memory .empty).mac
    rwa [hback, Memory.length_read, ← hback] at hread

/-! ## What a code of any length does -/

/-- The translation stays inside the record and leaves no byte of its code
unwritten, and the way back gives what was translated. -/
structure Translates (authToken : HardwareAuthToken) : Prop where
  inside : ∀ memory address, HwAuthToken.size ≤ address →
    (translate authToken memory).byte address = memory.byte address ∧
      (translate authToken memory).written address = memory.written address
  initialised : ∀ memory address, HwAuthToken.hmac.offset ≤ address →
    address < HwAuthToken.size →
      (translate authToken memory).written address = true
  fields : ∀ memory,
    SameFields (translateBack (translate authToken memory) .empty) authToken
  mac : authToken.mac.length = HwAuthToken.hmac.width → ∀ memory,
    (translateBack (translate authToken memory) .empty).mac = authToken.mac

/-- A stack on which nothing has been written. -/
def unwritten : Memory where
  byte _ := 0
  written _ := false

theorem written_translate_of_behind (authToken : HardwareAuthToken)
    {memory : Memory} {address : Nat}
    (hbehind : HwAuthToken.hmac.offset + authToken.mac.length ≤ address) :
    (translate authToken memory).byte address = memory.byte address ∧
      (translate authToken memory).written address =
        memory.written address := by
  obtain ⟨hbyte, hwritten⟩ := @Memory.storeAll_of_behind memory
    (assignments authToken) address fun entry hentry =>
      Nat.le_trans (assignments_before_hmac authToken entry hentry)
        (Nat.le_trans (Nat.le_add_right _ _) hbehind)
  exact ⟨(Memory.byte_write_of_outside (.inr hbehind)).trans hbyte,
    (Memory.written_write_of_outside (.inr hbehind)).trans hwritten⟩

/-- The translation is right exactly for codes of 32 bytes. -/
theorem translates_iff_mac_length (authToken : HardwareAuthToken) :
    Translates authToken ↔ authToken.mac.length = 32 := by
  constructor
  · intro htranslates
    apply Nat.le_antisymm
    · by_contra hlong
      have hpast : (translate authToken unwritten).written HwAuthToken.size =
          true :=
        Memory.written_write_of_inside (by decide) (by
          show 69 < 37 + _
          omega)
      have hsame := (htranslates.inside unwritten HwAuthToken.size
        (Nat.le_refl _)).2
      exact Bool.false_ne_true (hsame.symm.trans hpast)
    · by_contra hshort
      have hlast := htranslates.initialised unwritten 68 (by decide) (by decide)
      have hbehind : HwAuthToken.hmac.offset + authToken.mac.length ≤ 68 := by
        show 37 + _ ≤ 68
        omega
      have hsame :=
        (@written_translate_of_behind authToken unwritten 68 hbehind).2
      exact Bool.false_ne_true (hsame.symm.trans hlast)
  · intro hmac
    refine ⟨fun memory address hsize => ?_, fun memory address hle hlt => ?_,
      fun memory => sameFields_translateBack_translate authToken memory .empty,
      mac_translateBack_translate⟩
    · apply written_translate_of_behind
      rw [hmac]
      exact hsize
    · apply Memory.written_write_of_inside hle
      rw [hmac]
      exact hlt

/-- A longer code is written behind the record, and an empty one leaves the code
of the record unwritten. -/
theorem translate_wrong_length :
    ¬ Translates ⟨0, 0, 0, 0, 0, List.replicate 33 0⟩ ∧
      ¬ Translates ⟨0, 0, 0, 0, 0, []⟩ := by
  constructor
  · intro htranslates
    have hsame := (htranslates.inside unwritten 69 (by decide)).2
    exact absurd hsame (by decide)
  · intro htranslates
    have hfirst := htranslates.initialised unwritten 37 (by decide) (by decide)
    exact absurd hfirst (by decide)

end HardwareInterfaces.Fingerprint

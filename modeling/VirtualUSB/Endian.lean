import Mathlib.Data.List.Basic
import Mathlib.Tactic.Common
import Mathlib.Tactic.IntervalCases

/-!
# Byte order (`LIB/Toastbox/Endian.h`) and words in memory

The device runs on a little-endian host: `leBytes x` is how a 32-bit word lies in memory.  USB/IP
sends words big-endian (`beBytes`).  The source swaps a word in place and sends its memory, so the
bytes on the wire are those of the swapped word: `leBytes_bfhU32`.  Swapping twice gives the word
back (`swapU32_swapU32`), and a word is read back from its bytes (`leWord_leBytes`).
-/

namespace VirtualUSB.Endian

/-- `LittleEndian()`: the byte order of the host. -/
def littleEndian : Bool := true

/-- `Swap(uint16_t)` -/
def swapU16 (x : UInt16) : UInt16 :=
  (x &&& 0xFF00) >>> 8 ||| (x &&& 0x00FF) <<< 8

/-- `Swap(uint32_t)` -/
def swapU32 (x : UInt32) : UInt32 :=
  (x &&& 0xFF000000) >>> 24 ||| (x &&& 0x00FF0000) >>> 8 ||| (x &&& 0x0000FF00) <<< 8 |||
    (x &&& 0x000000FF) <<< 24

/-- `Swap(int32_t)`: the masks are combined as unsigned words and converted back. -/
def swapS32 (x : Int32) : Int32 :=
  (swapU32 x.toUInt32).toInt32

/-! ### Little-endian and host -/

/-- `LFH_U16` -/
def lfhU16 (x : UInt16) : UInt16 := if littleEndian then x else swapU16 x

/-- `HFL_U16` -/
def hflU16 (x : UInt16) : UInt16 := if littleEndian then x else swapU16 x

/-- `HFL_U32` -/
def hflU32 (x : UInt32) : UInt32 := if littleEndian then x else swapU32 x

/-! ### Big-endian and host -/

/-- `BFH_U32` -/
def bfhU32 (x : UInt32) : UInt32 := if !littleEndian then x else swapU32 x

/-- `HFB_U32` -/
def hfbU32 (x : UInt32) : UInt32 := if !littleEndian then x else swapU32 x

/-- `BFH_S32` -/
def bfhS32 (x : Int32) : Int32 := if !littleEndian then x else swapS32 x

/-- `HFB_S32` -/
def hfbS32 (x : Int32) : Int32 := if !littleEndian then x else swapS32 x

@[simp] theorem lfhU16_eq (x : UInt16) : lfhU16 x = x := rfl
@[simp] theorem hflU16_eq (x : UInt16) : hflU16 x = x := rfl
@[simp] theorem hflU32_eq (x : UInt32) : hflU32 x = x := rfl

/-- Swapping the bytes twice gives the word back. -/
theorem swapU32_swapU32 (x : UInt32) : swapU32 (swapU32 x) = x := by
  apply UInt32.eq_of_toBitVec_eq
  simp only [swapU32, UInt32.toBitVec_or, UInt32.toBitVec_and, UInt32.toBitVec_shiftRight,
    UInt32.toBitVec_shiftLeft]
  ext i hi
  simp
  interval_cases i <;> simp

@[simp] theorem hfbU32_bfhU32 (x : UInt32) : hfbU32 (bfhU32 x) = x := swapU32_swapU32 x
@[simp] theorem hfbS32_bfhS32 (x : Int32) : hfbS32 (bfhS32 x) = x := by
  show (swapU32 (swapU32 x.toUInt32).toInt32.toUInt32).toInt32 = x
  rw [UInt32.toUInt32_toInt32, swapU32_swapU32, Int32.toInt32_toUInt32]

/-! ### Words in memory -/

/-- The bytes of a word in the memory of the host, at increasing addresses. -/
def leBytes (x : UInt32) : List UInt8 :=
  [x.toUInt8, (x >>> 8).toUInt8, (x >>> 16).toUInt8, (x >>> 24).toUInt8]

/-- The bytes of a word in the order USB/IP sends them. -/
def beBytes (x : UInt32) : List UInt8 :=
  [(x >>> 24).toUInt8, (x >>> 16).toUInt8, (x >>> 8).toUInt8, x.toUInt8]

/-- The word that four bytes in memory are. -/
def leWord (b₀ b₁ b₂ b₃ : UInt8) : UInt32 :=
  b₀.toUInt32 ||| b₁.toUInt32 <<< 8 ||| b₂.toUInt32 <<< 16 ||| b₃.toUInt32 <<< 24

/-- The word that four bytes are that were sent in the order of USB/IP. -/
def beWord (b₀ b₁ b₂ b₃ : UInt8) : UInt32 :=
  b₀.toUInt32 <<< 24 ||| b₁.toUInt32 <<< 16 ||| b₂.toUInt32 <<< 8 ||| b₃.toUInt32

/-- The 16-bit word that two bytes in memory are. -/
def leWord16 (b₀ b₁ : UInt8) : UInt16 :=
  b₀.toUInt16 ||| b₁.toUInt16 <<< 8

@[simp] theorem length_leBytes (x : UInt32) : (leBytes x).length = 4 := rfl
@[simp] theorem length_beBytes (x : UInt32) : (beBytes x).length = 4 := rfl

/-- A word is read back from its bytes in memory. -/
theorem leWord_leBytes (x : UInt32) :
    leWord x.toUInt8 (x >>> 8).toUInt8 (x >>> 16).toUInt8 (x >>> 24).toUInt8 = x := by
  apply UInt32.eq_of_toBitVec_eq
  simp only [leWord, UInt32.toBitVec_or, UInt32.toBitVec_shiftLeft, UInt8.toBitVec_toUInt32,
    UInt32.toBitVec_toUInt8, UInt32.toBitVec_shiftRight]
  ext i hi
  simp
  interval_cases i <;> simp

/-- A word whose bytes are sent in the other order is read as the swapped word. -/
theorem leWord_beBytes (x : UInt32) :
    leWord (x >>> 24).toUInt8 (x >>> 16).toUInt8 (x >>> 8).toUInt8 x.toUInt8 = bfhU32 x := by
  show _ = swapU32 x
  apply UInt32.eq_of_toBitVec_eq
  simp only [leWord, swapU32, UInt32.toBitVec_or, UInt32.toBitVec_and, UInt32.toBitVec_shiftLeft,
    UInt8.toBitVec_toUInt32, UInt32.toBitVec_toUInt8, UInt32.toBitVec_shiftRight]
  ext i hi
  simp
  interval_cases i <;> simp

/-- The bytes of an assembled word are the bytes it was assembled from. -/
theorem leBytes_leWord (b₀ b₁ b₂ b₃ : UInt8) : leBytes (leWord b₀ b₁ b₂ b₃) = [b₀, b₁, b₂, b₃] := by
  simp only [leBytes, List.cons.injEq, and_true]
  refine ⟨?_, ?_, ?_, ?_⟩ <;>
    · apply UInt8.eq_of_toBitVec_eq
      simp only [leWord, UInt32.toBitVec_toUInt8, UInt32.toBitVec_or, UInt32.toBitVec_shiftLeft,
        UInt32.toBitVec_shiftRight, UInt8.toBitVec_toUInt32]
      ext i hi
      interval_cases i <;> simp

/-- A 16-bit word in memory has the low byte first. -/
theorem toNat_leWord16 (b₀ b₁ : UInt8) : (leWord16 b₀ b₁).toNat = b₀.toNat + 256 * b₁.toNat := by
  have h₀ := b₀.toNat_lt
  have h₁ := b₁.toNat_lt
  have hshift : b₁.toNat <<< 8 = 256 * b₁.toNat := by rw [Nat.shiftLeft_eq, Nat.mul_comm]
  rw [leWord16, UInt16.toNat_or, UInt16.toNat_shiftLeft, UInt8.toNat_toUInt16, UInt8.toNat_toUInt16]
  show b₀.toNat ||| (b₁.toNat <<< 8) % 2 ^ 16 = _
  rw [Nat.mod_eq_of_lt (by rw [hshift]; omega), Nat.or_comm,
    ← Nat.shiftLeft_add_eq_or_of_lt (by omega : b₀.toNat < 2 ^ 8), hshift, Nat.add_comm]

/-- **The memory of a swapped word is the word in network order.** -/
theorem leBytes_bfhU32 (x : UInt32) : leBytes (bfhU32 x) = beBytes x := by
  rw [← leWord_beBytes, leBytes_leWord, beBytes]

/-- **Reading a word in network order swaps what lies in memory.** -/
theorem beWord_eq (b₀ b₁ b₂ b₃ : UInt8) : beWord b₀ b₁ b₂ b₃ = hfbU32 (leWord b₀ b₁ b₂ b₃) := by
  have hor : ∀ x y z w : UInt32, x ||| y ||| z ||| w = w ||| z ||| y ||| x := by
    intro x y z w
    ac_rfl
  have hrev : beWord b₀ b₁ b₂ b₃ = leWord b₃ b₂ b₁ b₀ := hor _ _ _ _
  rw [hrev]
  have hbytes := leBytes_leWord b₀ b₁ b₂ b₃
  generalize leWord b₀ b₁ b₂ b₃ = x at hbytes
  simp only [leBytes, List.cons.injEq, and_true] at hbytes
  obtain ⟨rfl, rfl, rfl, rfl⟩ := hbytes
  exact leWord_beBytes x

end VirtualUSB.Endian

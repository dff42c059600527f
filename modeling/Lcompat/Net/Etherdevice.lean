import Lcompat.Logic.Memory

/-!
# Addresses and byte order

Ethernet addresses, the 16-bit reads and writes of `kernel.h` and `byteorder.h`, and the address
predicates of `etherdevice.h`. The processor is little-endian, so a `__le16` field is its value;
a `__be16` field is its value too, and its bytes are swapped where it is read or written.
-/

namespace Lcompat.Net

open Lcompat.Logic

/-- The 16-bit value of two bytes. -/
def word (high low : UInt8) : UInt16 := (high.toUInt16 <<< 8) ||| low.toUInt16

/-- `get_unaligned_le16`, and the read of an `__le16` field. -/
def getUnalignedLe16 (memory : Memory) (place : Nat) : Option UInt16 :=
  (memory place).bind fun low => (memory (place + 1)).map fun high => word high low

/-- `get_unaligned_be16`, and the read of a `__be16` field. -/
def getUnalignedBe16 (memory : Memory) (place : Nat) : Option UInt16 :=
  (memory place).bind fun high => (memory (place + 1)).map fun low => word high low

/-- The bytes of an `__le16` field. -/
def cpuToLe16 (value : UInt16) : List UInt8 := [value.toUInt8, (value >>> 8).toUInt8]

/-- The bytes of a `__be16` field. -/
def cpuToBe16 (value : UInt16) : List UInt8 := [(value >>> 8).toUInt8, value.toUInt8]

/-- An Ethernet address. -/
@[ext]
structure EtherAddr where
  /-- Its bytes. -/
  bytes : List UInt8
  /-- There are `ETH_ALEN` of them. -/
  length_eq : bytes.length = 6
  deriving DecidableEq

/-- The zero address. -/
def EtherAddr.zero : EtherAddr := ⟨List.replicate 6 0, rfl⟩

/-- `eth_broadcast_addr`. -/
def EtherAddr.broadcast : EtherAddr := ⟨List.replicate 6 0xff, rfl⟩

/-- `ether_addr_copy` from memory. -/
def readAddr (memory : Memory) (place : Nat) : Option EtherAddr :=
  (memory.read place 6).bind fun bytes =>
    if same : bytes.length = 6 then some ⟨bytes, same⟩ else none

/-- `is_zero_ether_addr`. -/
def isZeroEtherAddr (addr : EtherAddr) : Bool := addr = .zero

/-- `is_multicast_ether_addr`. -/
def isMulticastEtherAddr (addr : EtherAddr) : Bool := addr.bytes.headD 0 &&& 1 ≠ 0

/-- A 16-bit value is put together from its bytes. -/
theorem word_toUInt8 (value : UInt16) : word (value >>> 8).toUInt8 value.toUInt8 = value := by
  apply UInt16.eq_of_toBitVec_eq
  simp only [word, UInt16.toBitVec_or, UInt16.toBitVec_shiftLeft, UInt8.toBitVec_toUInt16,
    UInt16.toBitVec_toUInt8, UInt16.toBitVec_shiftRight]
  ext index inside
  by_cases low : index < 8
  · simp [low, BitVec.getLsbD_eq_getElem inside]
  · have high : index - 8 < 8 := by omega
    have place : 8 + (index - 8) = index := by omega
    simp [low, high, place, BitVec.getLsbD_eq_getElem inside]

/-- The low byte of a 16-bit value. -/
theorem toUInt8_word (high low : UInt8) : (word high low).toUInt8 = low := by
  apply UInt8.eq_of_toBitVec_eq
  simp only [word, UInt16.toBitVec_or, UInt16.toBitVec_shiftLeft, UInt8.toBitVec_toUInt16,
    UInt16.toBitVec_toUInt8]
  ext index inside
  simp

/-- The high byte of a 16-bit value. -/
theorem shiftRight_word (high low : UInt8) : (word high low >>> 8).toUInt8 = high := by
  apply UInt8.eq_of_toBitVec_eq
  simp only [word, UInt16.toBitVec_or, UInt16.toBitVec_shiftLeft, UInt8.toBitVec_toUInt16,
    UInt16.toBitVec_toUInt8, UInt16.toBitVec_shiftRight]
  ext index inside
  have narrow : 8 + index < 16 := by omega
  have above : ¬8 + index < 8 := by omega
  simp [narrow, above, BitVec.getLsbD_eq_getElem inside]

/-- The bytes of a big-endian value that was put together. -/
@[simp]
theorem cpuToBe16_word (high low : UInt8) : cpuToBe16 (word high low) = [high, low] := by
  rw [cpuToBe16, toUInt8_word, shiftRight_word]

/-- A big-endian value occupies two bytes. -/
@[simp]
theorem length_cpuToBe16 (value : UInt16) : (cpuToBe16 value).length = 2 := rfl

/-- A little-endian value occupies two bytes. -/
@[simp]
theorem length_cpuToLe16 (value : UInt16) : (cpuToLe16 value).length = 2 := rfl

variable {memory : Memory} {place : Nat}

/-- A big-endian value is read from the bytes that are held. -/
theorem getUnalignedBe16_of_holds {high low : UInt8} (holds : memory.Holds place [high, low]) :
    getUnalignedBe16 memory place = some (word high low) := by
  simp only [Memory.holds_cons] at holds
  simp [getUnalignedBe16, holds.1, holds.2.1]

/-- A big-endian value that is held is read. -/
theorem getUnalignedBe16_of_holds_cpu {value : UInt16}
    (holds : memory.Holds place (cpuToBe16 value)) :
    getUnalignedBe16 memory place = some value := by
  rw [getUnalignedBe16_of_holds holds, word_toUInt8]

/-- A little-endian value that is held is read. -/
theorem getUnalignedLe16_of_holds_cpu {value : UInt16}
    (holds : memory.Holds place (cpuToLe16 value)) :
    getUnalignedLe16 memory place = some value := by
  simp only [cpuToLe16, Memory.holds_cons] at holds
  simp [getUnalignedLe16, holds.1, holds.2.1, word_toUInt8]

/-- An address that is held is read. -/
theorem readAddr_of_holds {addr : EtherAddr} (holds : memory.Holds place addr.bytes) :
    readAddr memory place = some addr := by
  have found : memory.read place 6 = some addr.bytes := by
    rw [← addr.length_eq]
    exact holds
  simp [readAddr, found, addr.length_eq]

end Lcompat.Net

import Lcompat.Net.Etherdevice

/-!
# Socket buffers

The functions of `skbuff.h` that the frame paths of `mac80211.c` use. The memory at `head` and
the byte offset of `data` in it stand for the pointers; offsets and lengths are the 32-bit
values of the source. A read from memory that gives nothing there is a fault of the caller. A
buffer that is linear, with the bytes that it holds, is what most of its users rely on, and each
operation is described by what it does to those bytes.
-/

namespace Lcompat.Net

open Lcompat.Logic

/-- What `ieee80211_rx_status` in `cb` says of a received frame. -/
structure RxStatus where
  /-- `flag`. -/
  flag : UInt32
  /-- `freq`. -/
  freq : Int
  /-- `signal`. -/
  signal : Int
  deriving DecidableEq

/-- A zeroed `cb`. -/
def RxStatus.zero : RxStatus := ⟨0, 0, 0⟩

/-- One of `frags`, with the number of its page unless that is null. -/
structure Frag where
  /-- `page`. -/
  page : Option Nat
  /-- `page_offset`. -/
  pageOffset : UInt32
  /-- `size`. -/
  size : UInt32
  deriving DecidableEq

/-- `struct sk_buff` without its links, its checksum state and the page of its head. -/
structure SkBuff where
  /-- Which buffer it is. -/
  id : Nat
  /-- The memory at `head`, unless that is null. -/
  head : Option Memory
  /-- How far `data` lies behind `head`. -/
  data : Nat
  /-- `len`. -/
  len : UInt32
  /-- `tail`. -/
  tail : UInt32
  /-- `end`. -/
  limit : UInt32
  /-- `data_len`. -/
  dataLen : UInt32
  /-- The first `nr_frags` of `frags`. -/
  frags : List Frag
  /-- `priority`. -/
  priority : UInt32
  /-- `queue_mapping`. -/
  queueMapping : UInt16
  /-- `protocol`. -/
  protocol : UInt16
  /-- `cb`, as a receive status. -/
  status : RxStatus

/-- `UINT_MAX`. -/
def uintMax : Nat := 2 ^ 32 - 1

/-- `lcompat_skb_valid_bounds`. -/
def skbValidBounds (skb : SkBuff) : Bool :=
  if skb.head.isNone then false
  else if skb.dataLen > skb.len then false
  else
    let linearLen := skb.len - skb.dataLen
    let dataOff := UInt32.ofNat skb.data
    if dataOff > skb.limit || skb.tail > skb.limit then false
    else if linearLen > skb.limit - dataOff then false
    else if skb.tail < dataOff || linearLen > skb.tail - dataOff then false
    else true

/-- What the allocation of a buffer comes to: nothing, a page without frames, or memory with
some content. -/
inductive Page where
  /-- `kzalloc` or `__dev_alloc_pages` fails. -/
  | failed
  /-- `page_address` is null. -/
  | unmapped
  /-- There is memory. -/
  | mapped (memory : Memory)

/-- Whether there is memory. -/
def Page.isMapped : Page → Bool
  | .failed => false
  | .unmapped => false
  | .mapped _ => true

/-- `alloc_skb`, given what the allocation comes to. -/
def allocSkb (page : Page) (id size : Nat) : Option SkBuff :=
  let skb (head : Option Memory) : SkBuff :=
    { id, head, data := 0, len := 0, tail := 0, limit := UInt32.ofNat size, dataLen := 0,
      frags := [], priority := 0, queueMapping := 0, protocol := 0, status := .zero }
  if size > uintMax then none
  else
    match page with
    | .failed => none
    | .unmapped => some (skb none)
    | .mapped memory => some (skb (some memory))

/-- Write bytes at an offset from `head`. -/
def SkBuff.write (skb : SkBuff) (place : Nat) (bytes : List UInt8) : SkBuff :=
  { skb with head := skb.head.map fun memory => memory.write place bytes }

/-- Writing leaves `data` where it is. -/
@[simp]
theorem SkBuff.write_data (skb : SkBuff) (place : Nat) (bytes : List UInt8) :
    (skb.write place bytes).data = skb.data := rfl

/-- Read bytes at an offset from `data`. -/
def SkBuff.read (skb : SkBuff) (place count : Nat) : Option (List UInt8) :=
  skb.head.bind fun memory => memory.read (skb.data + place) count

/-- The bytes of a linear buffer. -/
def SkBuff.bytes (skb : SkBuff) : Option (List UInt8) := skb.read 0 skb.len.toNat

/-- `lcompat_skb_release_frags`. -/
def skbReleaseFrags (skb : SkBuff) : SkBuff := { skb with frags := [], dataLen := 0 }

/-- `skb_put`: the offset of the room, and the buffer with the room. -/
def skbPut (skb : SkBuff) (len : UInt32) : Option (Nat × SkBuff) :=
  if !skbValidBounds skb || len > skb.limit - skb.tail || len > 0xffffffff - skb.len then
    none
  else some (skb.tail.toNat, { skb with tail := skb.tail + len, len := skb.len + len })

/-- `skb_put_zero`. -/
def skbPutZero (skb : SkBuff) (len : UInt32) : Option (Nat × SkBuff) :=
  (skbPut skb len).map fun (pos, skb) => (pos, skb.write pos (List.replicate len.toNat 0))

/-- `skb_put_data`. -/
def skbPutData (skb : SkBuff) (data : List UInt8) : Option (Nat × SkBuff) :=
  (skbPut skb (UInt32.ofNat data.length)).map fun (pos, skb) => (pos, skb.write pos data)

/-- `skb_reserve`. -/
def skbReserve (skb : SkBuff) (len : UInt32) : SkBuff :=
  if !skbValidBounds skb || len > skb.limit - skb.tail then skb
  else { skb with data := skb.data + len.toNat, tail := skb.tail + len }

/-- `skb_trim`. -/
def skbTrim (skb : SkBuff) (len : UInt32) : SkBuff :=
  if skbValidBounds skb && len ≤ skb.len then
    let linearLen := skb.len - skb.dataLen
    let (skb, linearLen) :=
      if len < linearLen then (skbReleaseFrags skb, len)
      else if len < skb.len then ({ skb with dataLen := skb.dataLen - (skb.len - len) }, linearLen)
      else (skb, linearLen)
    let dataOff := UInt32.ofNat skb.data
    if linearLen > skb.limit - dataOff then skb
    else { skb with len := len, tail := dataOff + linearLen }
  else skb

/-- The bounds of a buffer, as distances. -/
theorem validBounds_iff (skb : SkBuff) : skbValidBounds skb = true ↔
    skb.head.isSome = true ∧ skb.dataLen.toNat ≤ skb.len.toNat ∧
      skb.tail.toNat ≤ skb.limit.toNat ∧
        (UInt32.ofNat skb.data).toNat + (skb.len.toNat - skb.dataLen.toNat) ≤ skb.tail.toNat := by
  unfold skbValidBounds
  cases skb.head with
  | none => simp
  | some memory =>
    have len := skb.len.toNat_lt
    have tail := skb.tail.toNat_lt
    have limit := skb.limit.toNat_lt
    generalize UInt32.ofNat skb.data = off
    have small := off.toNat_lt
    simp [UInt32.lt_iff_toNat_lt, UInt32.toNat_sub]
    omega

/-- A buffer without fragments that holds some bytes. -/
structure SkBuff.Linear (skb : SkBuff) (bytes : List UInt8) : Prop where
  /-- The memory holds the bytes. -/
  held : ∃ memory, skb.head = some memory ∧ memory.Holds skb.data bytes
  /-- `len` counts them. -/
  len : skb.len.toNat = bytes.length
  /-- `tail` lies behind them. -/
  tail : skb.tail.toNat = skb.data + bytes.length
  /-- `tail` does not lie behind `end`. -/
  limit : skb.tail.toNat ≤ skb.limit.toNat
  /-- There are no fragments. -/
  linear : skb.dataLen = 0

/-- A buffer with more bytes at its end. -/
def SkBuff.appended (skb : SkBuff) (data : List UInt8) : SkBuff :=
  { skb.write skb.tail.toNat data with
    tail := skb.tail + UInt32.ofNat data.length, len := skb.len + UInt32.ofNat data.length }

/-- More bytes leave `data` where it is. -/
@[simp]
theorem SkBuff.appended_data (skb : SkBuff) (bytes : List UInt8) :
    (skb.appended bytes).data = skb.data := rfl

/-- Bytes of which some are written over. -/
def overwrite (bytes : List UInt8) (place : Nat) (written : List UInt8) : List UInt8 :=
  bytes.take place ++ written ++ bytes.drop (place + written.length)

/-- Writing over some bytes leaves as many. -/
theorem length_overwrite {bytes written : List UInt8} {place : Nat}
    (inside : place + written.length ≤ bytes.length) :
    (overwrite bytes place written).length = bytes.length := by
  simp only [overwrite, List.length_append, List.length_take, List.length_drop]
  omega

/-- What is written over behind the front leaves the front as it is. -/
theorem prefix_overwrite {front bytes : List UInt8} {place : Nat} (written : List UInt8)
    (isPrefix : front <+: bytes) (short : front.length ≤ place) :
    front <+: overwrite bytes place written := by
  have kept : front <+: bytes.take place := List.prefix_take_iff.mpr ⟨isPrefix, short⟩
  rw [overwrite, List.append_assoc]
  exact kept.trans (List.prefix_append _ _)

namespace SkBuff.Linear

variable {skb : SkBuff} {bytes : List UInt8}

/-- The offset of `data` in a linear buffer has 32 bits. -/
theorem toNat_data (linear : skb.Linear bytes) : (UInt32.ofNat skb.data).toNat = skb.data := by
  have small := skb.tail.toNat_lt
  have tail := linear.tail
  rw [UInt32.toNat_ofNat']
  exact Nat.mod_eq_of_lt (by omega)

/-- The bytes of a linear buffer are counted in 32 bits. -/
theorem length_lt (linear : skb.Linear bytes) : bytes.length < 2 ^ 32 := by
  rw [← linear.len]
  exact skb.len.toNat_lt

/-- A linear buffer is within its bounds. -/
theorem validBounds (linear : skb.Linear bytes) : skbValidBounds skb = true := by
  have off := linear.toNat_data
  obtain ⟨⟨memory, head, -⟩, len, tail, limit, none⟩ := linear
  rw [validBounds_iff, off, none]
  refine ⟨by simp [head], ?_, limit, ?_⟩
  · simp
  · simp only [UInt32.toNat_zero]
    omega

/-- The fields that say nothing of the bytes of a linear buffer may change. -/
theorem mark (linear : skb.Linear bytes) (protocol : UInt16) (priority : UInt32)
    (queueMapping : UInt16) (status : RxStatus) :
    { skb with protocol, priority, queueMapping, status }.Linear bytes :=
  ⟨linear.held, linear.len, linear.tail, linear.limit, linear.linear⟩

/-- The bytes of a linear buffer. -/
theorem bytes_eq (linear : skb.Linear bytes) : skb.bytes = some bytes := by
  obtain ⟨memory, head, holds⟩ := linear.held
  rw [SkBuff.bytes, SkBuff.read, head, linear.len]
  exact holds

/-- There is room for more bytes behind those of a linear buffer. -/
theorem skbPut_eq (linear : skb.Linear bytes) {len : UInt32}
    (room : skb.tail.toNat + len.toNat ≤ skb.limit.toNat) :
    skbPut skb len = some (skb.tail.toNat, { skb with tail := skb.tail + len,
                                                      len := skb.len + len }) := by
  have shorter : skb.len.toNat ≤ skb.tail.toNat := by
    rw [linear.len, linear.tail]
    omega
  have limit := skb.limit.toNat_lt
  have fits : ¬len > skb.limit - skb.tail := by
    simp [UInt32.lt_iff_toNat_lt, UInt32.toNat_sub]
    omega
  have counts : ¬len > 0xffffffff - skb.len := by
    simp [UInt32.lt_iff_toNat_lt, UInt32.toNat_sub]
    omega
  simp [skbPut, linear.validBounds, fits, counts]

/-- Bytes that fit are put behind those of a linear buffer. -/
theorem skbPutData_eq (linear : skb.Linear bytes) {data : List UInt8}
    (room : skb.tail.toNat + data.length ≤ skb.limit.toNat) :
    skbPutData skb data = some (skb.tail.toNat, skb.appended data) := by
  have limit := skb.limit.toNat_lt
  have small : (UInt32.ofNat data.length).toNat = data.length := by
    rw [UInt32.toNat_ofNat']
    exact Nat.mod_eq_of_lt (by omega)
  rw [skbPutData, linear.skbPut_eq (by omega)]
  rfl

/-- Zeros that fit are put behind the bytes of a linear buffer. -/
theorem skbPutZero_eq (linear : skb.Linear bytes) {len : UInt32}
    (room : skb.tail.toNat + len.toNat ≤ skb.limit.toNat) :
    skbPutZero skb len = some (skb.tail.toNat, skb.appended (List.replicate len.toNat 0)) := by
  rw [skbPutZero, linear.skbPut_eq room]
  simp [SkBuff.appended, SkBuff.write]

/-- A linear buffer stays linear when bytes that fit are put behind its own. -/
theorem appended (linear : skb.Linear bytes) {data : List UInt8}
    (room : skb.tail.toNat + data.length ≤ skb.limit.toNat) :
    (skb.appended data).Linear (bytes ++ data) := by
  obtain ⟨⟨memory, head, holds⟩, len, tail, limit, none⟩ := linear
  have small := skb.limit.toNat_lt
  have count : (UInt32.ofNat data.length).toNat = data.length := by
    rw [UInt32.toNat_ofNat']
    exact Nat.mod_eq_of_lt (by omega)
  have newTail : (skb.tail + UInt32.ofNat data.length).toNat = skb.tail.toNat + data.length := by
    rw [UInt32.toNat_add, count]
    exact Nat.mod_eq_of_lt (by omega)
  have newLen : (skb.len + UInt32.ofNat data.length).toNat = skb.len.toNat + data.length := by
    rw [UInt32.toNat_add, count]
    exact Nat.mod_eq_of_lt (by omega)
  refine ⟨⟨memory.write skb.tail.toNat data, by simp [SkBuff.appended, SkBuff.write, head], ?_⟩,
    ?_, ?_, ?_, none⟩
  · rw [tail]
    exact holds.append_write
  · simp only [SkBuff.appended, newLen, List.length_append, len]
  · simp only [SkBuff.appended, SkBuff.write, newTail, List.length_append, tail]
    omega
  · simpa only [SkBuff.appended, SkBuff.write, newTail] using room

/-- Bytes that fit move `tail` behind them. -/
theorem room_appended {data : List UInt8} {rest : Nat}
    (room : skb.tail.toNat + (data.length + rest) ≤ skb.limit.toNat) :
    (skb.appended data).tail.toNat + rest ≤ (skb.appended data).limit.toNat := by
  have small := skb.limit.toNat_lt
  have count : (UInt32.ofNat data.length).toNat = data.length := by
    rw [UInt32.toNat_ofNat']
    exact Nat.mod_eq_of_lt (by omega)
  have newTail : (skb.tail + UInt32.ofNat data.length).toNat = skb.tail.toNat + data.length := by
    rw [UInt32.toNat_add, count]
    exact Nat.mod_eq_of_lt (by omega)
  simp only [SkBuff.appended, SkBuff.write, newTail]
  omega

/-- Writing inside a linear buffer changes a part of its bytes. -/
theorem write_inside {front middle back written : List UInt8}
    (linear : skb.Linear (front ++ middle ++ back)) (same : written.length = middle.length) :
    (skb.write (skb.data + front.length) written).Linear (front ++ written ++ back) := by
  obtain ⟨⟨memory, head, holds⟩, len, tail, limit, none⟩ := linear
  refine ⟨⟨_, by simp only [SkBuff.write, head, Option.map_some], holds.write_inside same⟩,
    ?_, ?_, limit, none⟩
  · simpa [SkBuff.write, same] using len
  · simpa [SkBuff.write, same] using tail

/-- Writing within the bytes of a linear buffer writes over some of them. -/
theorem write_within {place : Nat} {written : List UInt8} (linear : skb.Linear bytes)
    (inside : place + written.length ≤ bytes.length) :
    (skb.write (skb.data + place) written).Linear (overwrite bytes place written) := by
  have front : (bytes.take place).length = place := List.length_take_of_le (by omega)
  have middle : ((bytes.drop place).take written.length).length = written.length :=
    List.length_take_of_le (by rw [List.length_drop]; omega)
  have parts : bytes = bytes.take place ++ (bytes.drop place).take written.length ++
      bytes.drop (place + written.length) := by
    rw [← List.drop_drop, List.append_assoc, List.take_append_drop, List.take_append_drop]
  have done := (show skb.Linear (bytes.take place ++ (bytes.drop place).take written.length ++
    bytes.drop (place + written.length)) by rwa [← parts]).write_inside middle.symm
  rw [front] at done
  exact done

/-- Trimming a linear buffer moves `tail` and drops fragments that are not used. -/
theorem skbTrim_eq (linear : skb.Linear bytes) {len : UInt32} (shorter : len.toNat ≤ bytes.length) :
    ∃ frags, Net.skbTrim skb len =
      { skb with frags, dataLen := 0, len, tail := UInt32.ofNat skb.data + len } := by
  have off := linear.toNat_data
  have valid := linear.validBounds
  obtain ⟨-, count, tail, limit, none⟩ := linear
  have least : len ≤ skb.len := UInt32.le_iff_toNat_le.mpr (by omega)
  have fits : ¬len > skb.limit - UInt32.ofNat skb.data := by
    have small := skb.limit.toNat_lt
    rw [gt_iff_lt, UInt32.lt_iff_toNat_lt, UInt32.toNat_sub, off]
    omega
  by_cases less : len < skb.len
  · refine ⟨[], ?_⟩
    simp only [Net.skbTrim, valid, least, decide_true, Bool.and_true, none, UInt32.sub_zero, less,
      ↓reduceIte, skbReleaseFrags, fits]
  · refine ⟨skb.frags, ?_⟩
    have same : skb.len = len := UInt32.le_antisymm (UInt32.not_lt.mp less) least
    subst same
    simp [Net.skbTrim, valid, none, fits]

/-- Trimming a linear buffer keeps its first bytes. -/
theorem skbTrim (linear : skb.Linear bytes) {len : UInt32} (shorter : len.toNat ≤ bytes.length) :
    (skbTrim skb len).Linear (bytes.take len.toNat) := by
  obtain ⟨frags, trimmed⟩ := linear.skbTrim_eq shorter
  have off := linear.toNat_data
  obtain ⟨⟨memory, head, holds⟩, count, tail, limit, none⟩ := linear
  have newTail : (UInt32.ofNat skb.data + len).toNat = skb.data + len.toNat := by
    have small := skb.limit.toNat_lt
    rw [UInt32.toNat_add, off]
    exact Nat.mod_eq_of_lt (by omega)
  have kept : memory.Holds skb.data (bytes.take len.toNat) := by
    simpa using holds.slice 0 len.toNat (Nat.zero_le _)
  have taken : (bytes.take len.toNat).length = len.toNat := by
    rw [List.length_take, Nat.min_eq_left shorter]
  rw [trimmed]
  refine ⟨⟨memory, head, kept⟩, taken.symm, by simp only [newTail, taken], ?_, rfl⟩
  simp only [newTail]
  omega

end SkBuff.Linear

/-- There is no room in a buffer without memory. -/
theorem skbPut_of_unmapped {skb : SkBuff} (unmapped : skb.head.isSome = false) (len : UInt32) :
    skbPut skb len = none := by
  simp [skbPut, skbValidBounds, Option.isSome_eq_false_iff.mp unmapped]

/-- A buffer of a size that is counted in 32 bits is allocated when there is memory. -/
theorem exists_allocSkb {size : Nat} (fits : size ≤ uintMax) (memory : Memory) (id : Nat) :
    ∃ skb, allocSkb (.mapped memory) id size = some skb := by
  rw [allocSkb, if_neg (by omega)]
  exact ⟨_, rfl⟩

/-- A buffer that has just been allocated with memory is linear and empty. -/
theorem linear_of_allocSkb {memory : Memory} {id size : Nat} {skb : SkBuff}
    (allocated : allocSkb (.mapped memory) id size = some skb) :
    skb.Linear [] ∧ skb.limit.toNat = size ∧ skb.data = 0 := by
  obtain ⟨fits, rfl⟩ : size ≤ uintMax ∧ _ = skb := by simpa [allocSkb] using allocated
  have count : (UInt32.ofNat size).toNat = size := by
    rw [UInt32.toNat_ofNat']
    exact Nat.mod_eq_of_lt (by simp only [uintMax] at fits; omega)
  exact ⟨⟨⟨memory, rfl, Memory.holds_nil⟩, rfl, rfl, Nat.zero_le _, rfl⟩, count, rfl⟩

/-- A buffer that has just been allocated has memory only if its page has. -/
theorem mapped_of_allocSkb {page : Page} {id size : Nat} {skb : SkBuff}
    (allocated : allocSkb page id size = some skb) (mapped : skb.head.isSome = true) :
    ∃ memory, page = .mapped memory := by
  cases page with
  | failed => simp [allocSkb] at allocated
  | unmapped =>
    obtain ⟨-, rfl⟩ : size ≤ uintMax ∧ _ = skb := by simpa [allocSkb] using allocated
    simp at mapped
  | mapped memory => exact ⟨memory, rfl⟩

/-- Reserving room leaves the memory as it is. -/
theorem head_skbReserve (skb : SkBuff) (len : UInt32) : (skbReserve skb len).head = skb.head := by
  unfold skbReserve
  split <;> rfl

/-- Room is reserved in front of the bytes of an empty buffer. -/
theorem SkBuff.Linear.skbReserve {skb : SkBuff} (linear : skb.Linear []) {len : UInt32}
    (room : skb.tail.toNat + len.toNat ≤ skb.limit.toNat) :
    (skbReserve skb len).Linear [] ∧ (skbReserve skb len).limit = skb.limit ∧
      (skbReserve skb len).data = skb.data + len.toNat := by
  have valid := linear.validBounds
  obtain ⟨⟨memory, head, holds⟩, count, tail, limit, none⟩ := linear
  have small := skb.limit.toNat_lt
  have fits : ¬len > skb.limit - skb.tail := by
    simp [UInt32.lt_iff_toNat_lt, UInt32.toNat_sub]
    omega
  have newTail : (skb.tail + len).toNat = skb.tail.toNat + len.toNat := by
    rw [UInt32.toNat_add]
    exact Nat.mod_eq_of_lt (by omega)
  simp only [Net.skbReserve, valid, Bool.not_true, fits, decide_false, Bool.or_self,
    Bool.false_eq_true, ↓reduceIte, and_true]
  refine ⟨⟨memory, head, Memory.holds_nil⟩, count, ?_, by rwa [newTail], none⟩
  simp only [newTail, tail, List.length_nil]
  omega

end Lcompat.Net

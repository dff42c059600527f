import Lcompat.Net.Paged

/-!
# Copies and padding of packets

`skb_copy` copies the linear bytes of a buffer and leaves its fragments out, so it returns the
packet exactly where nothing of it lies in fragments. `skb_pad` is a put that a trim takes back:
behind fragments the trim takes bytes of the packet with it, or drops the fragments altogether.
-/

namespace Lcompat.Net.Paged

open Lcompat.Logic

/-- `__dev_alloc_pages` returns a page that is not in use, with frames that are not in use unless
there are none. -/
structure FreshPages (alloc : PageAlloc) (used : List Nat) (memory : Memory) : Prop where
  /-- The page is not in use. -/
  page : ∀ order page address, alloc order = some (page, address) → page ∉ used
  /-- Nothing can be read where the frames are. -/
  frames : ∀ order page address, alloc order = some (page, address) → address ≠ 0 →
    ∀ offset < 4096 * 2 ^ order.toNat, memory (address + offset) = none

/-- What a copy of a buffer should be. -/
structure Duplicates (address : Nat → Nat) (skb new : Buffer) (memory memory' : Memory) :
    Prop where
  /-- The packet is as long. -/
  len : new.len = skb.len
  /-- It has the same bytes. -/
  packet : ∀ packet, skb.Carries address memory packet → new.Carries address memory' packet
  /-- There is as much room in front. -/
  headroom : new.dataOff = skb.dataOff
  /-- `cb` is the same. -/
  cb : new.cb = skb.cb
  /-- `priority` is the same. -/
  priority : new.priority = skb.priority
  /-- `queue_mapping` is the same. -/
  queueMapping : new.queueMapping = skb.queueMapping
  /-- No page is shared. -/
  pages : ∀ page ∈ new.pages, page ∉ skb.pages
  /-- Nothing could be read before where the memory of the copy is. -/
  fresh : new.head ≠ 0 → ∀ offset < new.limit.toNat, memory (new.head + offset) = none
  /-- What could be read before is unchanged. -/
  unchanged : ∀ place byte, memory place = some byte → memory' place = some byte

/-- A buffer without data in fragments carries its linear bytes. -/
theorem Buffer.Carries.linear {skb : Buffer} {address : Nat → Nat} {memory : Memory}
    {packet : List UInt8} (carries : skb.Carries address memory packet) (none : skb.dataLen = 0) :
    memory.Holds skb.data packet ∧ packet.length = skb.len.toNat := by
  obtain ⟨linear, paged, holds, length, -, rfl⟩ := carries
  have whole : linear.length = skb.len.toNat := by
    rw [length, Buffer.linearLen, none, UInt32.sub_zero]
  rw [← whole, List.take_left]
  exact ⟨holds, rfl⟩

/-- A buffer without fragments carries the linear bytes that it has. -/
theorem Buffer.carries_linear {skb : Buffer} {address : Nat → Nat} {memory : Memory}
    {packet : List UInt8} (holds : memory.Holds skb.data packet)
    (length : packet.length = skb.len.toNat) (none : skb.dataLen = 0) (frags : skb.frags = []) :
    skb.Carries address memory packet := by
  refine ⟨packet, [], holds, ?_, ?_, ?_⟩
  · rw [length, Buffer.linearLen, none, UInt32.sub_zero]
  · rw [frags]
    rfl
  · rw [List.append_nil, ← length, List.take_length]

/-- `data_off` of a pointer that lies a 32-bit offset behind `head`. -/
theorem dataOff_add (skb : Buffer) (off : UInt32) (place : skb.data = skb.head + off.toNat) :
    skb.dataOff = off := by
  rw [Buffer.dataOff, place, Nat.add_sub_cancel_left, UInt32.ofNat_toNat]

/-- The buffer that `alloc_skb` returns. -/
theorem allocSkb_eq_some {object : Bool} {alloc : PageAlloc} {size : UInt64} {new : Buffer}
    {events : List PageEvent} (allocated : allocSkb object alloc size = (some new, events)) :
    ∃ page, alloc (getOrder (if size ≠ 0 then size else 1)) = some (page, new.head) ∧
      new.headPage = some page ∧ new.limit = size.toUInt32 ∧ new.dataLen = 0 ∧
        new.frags = [] ∧ size ≤ 0xffffffff := by
  unfold allocSkb at allocated
  split at allocated
  · simp at allocated
  · split at allocated
    · simp at allocated
    · next large =>
      dsimp only at allocated
      split at allocated
      · simp at allocated
      · next page address found =>
        obtain ⟨same, -⟩ := Prod.mk.inj allocated
        obtain rfl := Option.some.inj same
        exact ⟨page, found, rfl, rfl, rfl, rfl, UInt64.not_lt.mp large⟩

/-- A buffer that `skb_copy` returns. -/
theorem skbCopy_eq_some {object : Bool} {alloc : PageAlloc} {skb new : Buffer}
    {memory memory' : Memory} {events : List PageEvent}
    (copied : skbCopy object alloc skb memory = some (some new, memory', events)) :
    ∃ page, alloc (getOrder (if skb.limit.toUInt64 ≠ 0 then skb.limit.toUInt64 else 1)) =
        some (page, new.head) ∧
      memcpy new.head skb.dataOff.toNat skb.data skb.linearLen.toNat memory = some memory' ∧
      new.headPage = some page ∧ new.limit = skb.limit ∧ new.dataLen = 0 ∧ new.frags = [] ∧
      new.data = new.head + skb.dataOff.toNat ∧ new.len = skb.linearLen ∧
      new.priority = skb.priority ∧ new.queueMapping = skb.queueMapping ∧ new.cb = skb.cb := by
  unfold skbCopy at copied
  split at copied
  · simp at copied
  · split at copied
    · simp at copied
    · next bare events allocated =>
      obtain ⟨page, found, headPage, limit, dataLen, frags, -⟩ := allocSkb_eq_some allocated
      obtain ⟨after, moved, same⟩ := Option.map_eq_some_iff.mp copied
      simp only [Prod.mk.injEq, Option.some.injEq] at same
      obtain ⟨rfl, rfl, -⟩ := same
      refine ⟨page, found, moved, headPage, ?_, dataLen, frags, rfl, rfl, rfl, rfl, rfl⟩
      rw [limit, UInt32.toUInt32_toUInt64]

/-- `memcpy` has copied, and there was memory unless there was nothing to copy. -/
theorem memcpy_eq_some {base offset source count : Nat} {memory memory' : Memory}
    (copied : memcpy base offset source count memory = some memory') :
    memory' = memory.copy (base + offset) source count ∧ (count ≠ 0 → base ≠ 0) := by
  unfold memcpy at copied
  split at copied
  · simp at copied
  · next safe => exact ⟨(Option.some.inj copied).symm, fun some_ null => safe ⟨null, some_⟩⟩

/-- `get_order` covers what `alloc_skb` asks for. -/
theorem le_of_getOrder (size : UInt32) :
    size.toNat ≤ 4096 * 2 ^
      (getOrder (if size.toUInt64 ≠ 0 then size.toUInt64 else 1)).toNat := by
  by_cases none : size.toUInt64 = 0
  · have zero : size.toNat = 0 := by
      rw [← UInt32.toNat_toUInt64, none]
      rfl
    rw [zero]
    exact Nat.zero_le _
  · rw [if_pos none, ← UInt32.toNat_toUInt64]
    exact getOrder_covers _

/-- The memory of a copy was not in use. -/
theorem fresh_skbCopy {object : Bool} {alloc : PageAlloc} {skb new : Buffer}
    {memory memory' : Memory} {events : List PageEvent}
    (fresh : FreshPages alloc skb.pages memory)
    (copied : skbCopy object alloc skb memory = some (some new, memory', events))
    (there : new.head ≠ 0) : ∀ offset < new.limit.toNat, memory (new.head + offset) = none := by
  obtain ⟨page, found, -, -, limit, -⟩ := skbCopy_eq_some copied
  intro offset inside
  have covered := le_of_getOrder skb.limit
  rw [limit] at inside
  exact fresh.frames _ page new.head found there offset (by omega)

/-- A copy leaves what could be read unchanged. -/
theorem unchanged_skbCopy {object : Bool} {alloc : PageAlloc} {skb new : Buffer}
    {memory memory' : Memory} {events : List PageEvent} (valid : skbValidBounds skb = true)
    (fresh : FreshPages alloc skb.pages memory)
    (copied : skbCopy object alloc skb memory = some (some new, memory', events))
    {place : Nat} {byte : UInt8} (readable : memory place = some byte) :
    memory' place = some byte := by
  obtain ⟨page, -, moved, -, limit, -⟩ := skbCopy_eq_some copied
  obtain ⟨rfl, there⟩ := memcpy_eq_some moved
  have bounds := ((validBounds_iff skb).mp valid).2.2.2
  have linear := toNat_linearLen valid
  rw [Memory.copy, if_neg]
  · exact readable
  · rintro ⟨from_, until_⟩
    have free := fresh_skbCopy fresh copied (there (by omega)) (place - new.head)
      (by rw [limit]; omega)
    rw [Nat.add_sub_cancel' (by omega), readable] at free
    cases free

/-- `skb_copy` copies a buffer within its bounds exactly when none of its data lies in
fragments. -/
theorem skbCopy_duplicates_iff {object : Bool} {alloc : PageAlloc} {address : Nat → Nat}
    {skb new : Buffer} {memory memory' : Memory} {events : List PageEvent}
    (valid : skbValidBounds skb = true) (fresh : FreshPages alloc skb.pages memory)
    (copied : skbCopy object alloc skb memory = some (some new, memory', events)) :
    Duplicates address skb new memory memory' ↔ skb.dataLen = 0 := by
  obtain ⟨page, found, moved, headPage, limit, dataLen, frags, data, len, priority,
    queueMapping, cb⟩ := skbCopy_eq_some copied
  constructor
  · intro duplicates
    have same : skb.linearLen.toNat = skb.len.toNat := by
      rw [← len, duplicates.len]
    rw [toNat_linearLen valid] at same
    have less := ((validBounds_iff skb).mp valid).2.2.1
    exact UInt32.toNat_inj.mp (by show _ = 0; omega)
  · intro none
    have whole : new.len = skb.len := by
      rw [len, Buffer.linearLen, none, UInt32.sub_zero]
    refine ⟨whole, fun packet carries => ?_, dataOff_add new skb.dataOff data, cb, priority,
      queueMapping, ?_, fresh_skbCopy fresh copied, fun place byte readable =>
        unchanged_skbCopy valid fresh copied readable⟩
    · obtain ⟨holds, length⟩ := carries.linear none
      have count : skb.linearLen.toNat = packet.length := by
        rw [length, ← len, whole]
      obtain ⟨rfl, -⟩ := memcpy_eq_some moved
      refine Buffer.carries_linear ?_ (by rw [length, whole]) dataLen frags
      rw [count, holds.copy_eq, data]
      exact Memory.holds_write_self packet
    · intro other member
      have same : other = page := by
        simpa [Buffer.pages, headPage, frags] using member
      rw [same]
      exact fresh.page _ page new.head found

/-- A buffer at an address, with four bytes of head of which the second is its packet. -/
def oneByte : Buffer where
  head := 4096
  data := 4097
  headPage := some 0
  len := 1
  tail := 2
  limit := 4
  priority := 5
  dataLen := 0
  queueMapping := 6
  cb := Vector.replicate 128 7
  frags := []

/-- The memory of that buffer. -/
def oneByteMemory : Memory := fun place =>
  if 4096 ≤ place ∧ place < 8192 then some 9 else none

/-- A page behind that memory. -/
def pageOne : PageAlloc := fun _ => some (1, 8192)

/-- The page is not in use. -/
theorem fresh_pageOne {used : List Nat} (unused : 1 ∉ used) :
    FreshPages pageOne used oneByteMemory where
  page order page address found := by
    simp only [pageOne, Option.some.injEq, Prod.mk.injEq] at found
    rw [← found.1]
    exact unused
  frames order page address found there offset inside := by
    simp only [pageOne, Option.some.injEq, Prod.mk.injEq] at found
    rw [← found.2, oneByteMemory, if_neg (by omega)]

/-- The packet is copied. -/
theorem skbCopy_duplicates_oneByte : ∃ new memory events,
    skbCopy true pageOne oneByte oneByteMemory = some (some new, memory, events) ∧
      Duplicates id oneByte new oneByteMemory memory := by
  obtain ⟨⟨new, memory, events⟩, copied⟩ : ∃ result,
      skbCopy true pageOne oneByte oneByteMemory = some result := ⟨_, rfl⟩
  cases new with
  | none => cases copied
  | some new =>
    exact ⟨new, memory, events, copied,
      (skbCopy_duplicates_iff (by decide) (fresh_pageOne (by decide)) copied).mpr rfl⟩

/-- A buffer whose packet lies in a fragment. -/
def oneFragment : Buffer :=
  { oneByte with data := 4096, tail := 0, dataLen := 1, frags := [⟨some 0, 8, 1⟩] }

/-- The copy of a packet in a fragment is empty. -/
theorem skbCopy_loses_fragment :
    ¬∀ (skb new : Buffer) (memory memory' : Memory) (events : List PageEvent),
      skbValidBounds skb = true → FreshPages pageOne skb.pages memory →
        skbCopy true pageOne skb memory = some (some new, memory', events) →
          Duplicates (fun _ => 4096) skb new memory memory' := by
  intro always
  have duplicates := always oneFragment _ oneByteMemory _ _ (by decide) (fresh_pageOne (by decide))
    rfl
  exact absurd duplicates.len (by decide)

/-- What a buffer with padding should be. -/
structure Padded (address : Nat → Nat) (pad : Int32) (skb : Buffer) (memory : Memory)
    (after : Outcome) : Prop where
  /-- The call succeeds. -/
  result : after.result = 0
  /-- The packet is as long. -/
  len : after.skb.len = skb.len
  /-- As much of it lies in fragments. -/
  dataLen : after.skb.dataLen = skb.dataLen
  /-- The fragments are the same. -/
  frags : after.skb.frags = skb.frags
  /-- The packet has the same bytes. -/
  packet : ∀ packet, skb.Carries address memory packet →
    after.skb.Carries address after.memory packet
  /-- Zeros follow the linear bytes. -/
  zeros : after.memory.Holds (after.skb.data + after.skb.linearLen.toNat)
    (List.replicate pad.toNatClampNeg 0)
  /-- They lie in the room at the end. -/
  room : after.skb.tail.toNat + pad.toNatClampNeg ≤ after.skb.limit.toNat

/-- What `skb_pad` should come to. -/
def PadsOrRefuses (address : Nat → Nat) (pad : Int32) (skb : Buffer) (memory : Memory)
    (after : Outcome) : Prop :=
  after.result < 0 ∧ after.skb = skb ∧ after.memory = memory ∨
    Padded address pad skb memory after

/-- Where zeros are expected behind the linear bytes and none are written at `tail`, there are
some already. With `tail` right behind the linear bytes this is so. -/
def ZerosBehind (pad : Int32) (skb : Buffer) (memory : Memory) : Prop :=
  ∀ offset < pad.toNatClampNeg,
    let place := skb.data + skb.linearLen.toNat + offset
    place < skb.head + skb.tail.toNat ∨
        skb.head + skb.tail.toNat + pad.toNatClampNeg ≤ place →
      memory place = some 0

/-- The condition under which a buffer is padded: nothing is asked for, there is no room, or the
buffer has no fragments. -/
def PadsSafely (pad : Int32) (skb : Buffer) (memory : Memory) : Prop :=
  pad ≤ 0 ∨ skb.limit - skb.tail < pad.toUInt32 ∨ 0xffffffff - skb.len < pad.toUInt32 ∨
    skb.dataLen = 0 ∧ skb.frags = [] ∧ ZerosBehind pad skb memory

section Padding

variable {skb : Buffer} {memory : Memory}

/-- A buffer with more room in it. -/
def Buffer.grown (skb : Buffer) (len : UInt32) : Buffer :=
  { skb with tail := skb.tail + len, len := skb.len + len }

/-- There is room for some bytes, and they can be counted. -/
structure Buffer.Room (skb : Buffer) (len : UInt32) : Prop where
  /-- The room. -/
  room : skb.tail.toNat + len.toNat ≤ skb.limit.toNat
  /-- The count. -/
  count : skb.len.toNat + len.toNat < 2 ^ 32

/-- There is room when `skb_put` does not refuse. -/
theorem Buffer.room_of_not_lt (valid : skbValidBounds skb = true) {len : UInt32}
    (room : ¬skb.limit - skb.tail < len) (count : ¬0xffffffff - skb.len < len) :
    skb.Room len := by
  have bounds := ((validBounds_iff skb).mp valid).2.2.2.1
  have small := skb.len.toNat_lt
  constructor
  · rw [UInt32.lt_iff_toNat_lt,
      UInt32.toNat_sub_of_le _ _ (UInt32.le_iff_toNat_le.mpr bounds)] at room
    omega
  · have top : skb.len ≤ 0xffffffff :=
      UInt32.le_iff_toNat_le.mpr (by show skb.len.toNat ≤ 0xffffffff; omega)
    rw [UInt32.lt_iff_toNat_lt, UInt32.toNat_sub_of_le _ _ top] at count
    have most : (0xffffffff : UInt32).toNat = 0xffffffff := rfl
    omega

/-- The lengths of a buffer that has grown. -/
theorem Buffer.Room.grown {len : UInt32} (room : skb.Room len) :
    (skb.tail + len).toNat = skb.tail.toNat + len.toNat ∧
      (skb.len + len).toNat = skb.len.toNat + len.toNat := by
  have limit := skb.limit.toNat_lt
  have fits := room.room
  constructor
  · rw [UInt32.toNat_add]
    exact Nat.mod_eq_of_lt (by omega)
  · rw [UInt32.toNat_add]
    exact Nat.mod_eq_of_lt room.count

/-- `skb_put` makes room where there is some. -/
theorem skbPut_eq_some (valid : skbValidBounds skb = true) {len : UInt32} (room : skb.Room len) :
    skbPut skb len = some (skb.head + skb.tail.toNat, skb.grown len) := by
  have bounds := ((validBounds_iff skb).mp valid).2.2.2.1
  have fits : ¬len > skb.limit - skb.tail := by
    rw [gt_iff_lt, UInt32.lt_iff_toNat_lt,
      UInt32.toNat_sub_of_le _ _ (UInt32.le_iff_toNat_le.mpr bounds)]
    have := room.room
    omega
  have counts : ¬len > 0xffffffff - skb.len := by
    have small := room.count
    have top : skb.len ≤ 0xffffffff :=
      UInt32.le_iff_toNat_le.mpr (by show skb.len.toNat ≤ 0xffffffff; omega)
    have most : (0xffffffff : UInt32).toNat = 0xffffffff := rfl
    rw [gt_iff_lt, UInt32.lt_iff_toNat_lt, UInt32.toNat_sub_of_le _ _ top]
    omega
  simp [skbPut, valid, fits, counts, Buffer.grown]

/-- A buffer that has grown is within its bounds. -/
theorem validBounds_grown (valid : skbValidBounds skb = true) {len : UInt32}
    (room : skb.Room len) : skbValidBounds (skb.grown len) = true := by
  obtain ⟨head, data, less, tail, inside⟩ := (validBounds_iff skb).mp valid
  obtain ⟨newTail, newLen⟩ := room.grown
  have fits := room.room
  refine (validBounds_iff _).mpr ⟨head, data, ?_, ?_, ?_⟩
  · show skb.dataLen.toNat ≤ (skb.len + len).toNat
    omega
  · show (skb.tail + len).toNat ≤ skb.limit.toNat
    omega
  · show skb.dataOff.toNat + ((skb.len + len).toNat - skb.dataLen.toNat) ≤ (skb.tail + len).toNat
    omega

/-- The linear part of a buffer that has grown. -/
theorem toNat_linearLen_grown (valid : skbValidBounds skb = true) {len : UInt32}
    (room : skb.Room len) :
    (skb.grown len).linearLen.toNat = skb.len.toNat + len.toNat - skb.dataLen.toNat := by
  rw [toNat_linearLen (validBounds_grown valid room)]
  show (skb.len + len).toNat - skb.dataLen.toNat = _
  rw [room.grown.2]

/-- Trimming back a buffer that has grown by more than its fragments hold drops the fragments. -/
theorem skbTrim_grown_linear (valid : skbValidBounds skb = true) {len : UInt32}
    (room : skb.Room len) (more : skb.dataLen.toNat < len.toNat) :
    (skbTrim (skb.grown len) skb.len).1.frags = [] ∧
      (skbTrim (skb.grown len) skb.len).1.dataLen = 0 := by
  have least : skb.len ≤ (skb.grown len).len := by
    rw [UInt32.le_iff_toNat_le]
    show skb.len.toNat ≤ (skb.len + len).toNat
    rw [room.grown.2]
    omega
  have cut : skb.len < (skb.grown len).linearLen := by
    rw [UInt32.lt_iff_toNat_lt, toNat_linearLen_grown valid room]
    omega
  simp only [skbTrim, validBounds_grown valid room, least, decide_true, Bool.and_self, if_true,
    cut, skbReleaseFrags]
  split <;> exact ⟨rfl, rfl⟩

/-- Trimming back a buffer that has grown by no more than its fragments hold takes that much from
them. -/
theorem skbTrim_grown_paged (valid : skbValidBounds skb = true) {len : UInt32}
    (room : skb.Room len) (some_ : 0 < len.toNat) (less : len.toNat ≤ skb.dataLen.toNat) :
    (skbTrim (skb.grown len) skb.len).1.dataLen.toNat = skb.dataLen.toNat - len.toNat := by
  have whole : (skb.grown len).len.toNat = skb.len.toNat + len.toNat := room.grown.2
  have least : skb.len ≤ (skb.grown len).len := by
    rw [UInt32.le_iff_toNat_le, whole]
    omega
  have kept : ¬skb.len < (skb.grown len).linearLen := by
    rw [UInt32.lt_iff_toNat_lt, toNat_linearLen_grown valid room]
    omega
  have shorter : skb.len < (skb.grown len).len := by
    rw [UInt32.lt_iff_toNat_lt, whole]
    omega
  have taken : (skb.dataLen - ((skb.grown len).len - skb.len)).toNat =
      skb.dataLen.toNat - len.toNat := by
    have back : ((skb.grown len).len - skb.len).toNat = len.toNat := by
      rw [UInt32.toNat_sub_of_le _ _ least, whole]
      omega
    rw [UInt32.toNat_sub_of_le _ _ (UInt32.le_iff_toNat_le.mpr (by omega)), back]
  simp only [skbTrim, validBounds_grown valid room, least, decide_true, Bool.and_self, if_true,
    kept, if_false, shorter]
  split <;> exact taken

/-- The linear part of a buffer within its bounds fits between `data` and `end`. -/
theorem not_lt_linearLen (valid : skbValidBounds skb = true) :
    ¬skb.linearLen > skb.limit - skb.dataOff := by
  have bounds := ((validBounds_iff skb).mp valid).2.2.2
  have linear := toNat_linearLen valid
  have inside : skb.dataOff ≤ skb.limit := UInt32.le_iff_toNat_le.mpr (by omega)
  rw [gt_iff_lt, UInt32.lt_iff_toNat_lt, UInt32.toNat_sub_of_le _ _ inside]
  omega

/-- Trimming a buffer to its length moves `tail` behind its linear bytes. -/
theorem skbTrim_len (valid : skbValidBounds skb = true) :
    skbTrim skb skb.len = ({ skb with tail := skb.dataOff + skb.linearLen }, []) := by
  have linear := toNat_linearLen valid
  have kept : ¬skb.len < skb.linearLen := by
    rw [UInt32.lt_iff_toNat_lt]
    omega
  simp only [skbTrim, valid, UInt32.le_refl, decide_true, Bool.and_self, if_true, kept,
    UInt32.lt_irrefl, if_false, not_lt_linearLen valid]

/-- `tail` behind the linear bytes. -/
theorem toNat_dataOff_add (valid : skbValidBounds skb = true) :
    (skb.dataOff + skb.linearLen).toNat = skb.dataOff.toNat + skb.linearLen.toNat := by
  have bounds := ((validBounds_iff skb).mp valid).2.2.2
  have linear := toNat_linearLen valid
  have limit := skb.limit.toNat_lt
  rw [UInt32.toNat_add]
  exact Nat.mod_eq_of_lt (by omega)

/-- Padding that asks for nothing. -/
theorem padded_zero (valid : skbValidBounds skb = true) (address : Nat → Nat) :
    Padded address 0 skb memory (skbPad 0 skb memory) := by
  have room : skb.Room 0 := by
    have bounds := ((validBounds_iff skb).mp valid).2.2.2.1
    have small := skb.len.toNat_lt
    constructor <;> simp only [UInt32.toNat_zero] <;> omega
  have same : skb.grown 0 = skb := by
    simp only [Buffer.grown, UInt32.add_zero]
  have padded : skbPad 0 skb memory =
      ⟨0, { skb with tail := skb.dataOff + skb.linearLen }, memory, []⟩ := by
    have unchanged : memory.write (skb.head + skb.tail.toNat) [] = memory := by
      funext place
      simp [Memory.write]
    have trimmed := skbTrim_len valid
    simp only [skbPad, show ¬(0 : Int32) < 0 by decide, if_false,
      show (0 : Int32).toUInt32 = 0 from rfl, skbPut_eq_some valid room, same, trimmed,
      UInt32.toNat_zero, List.replicate_zero, unchanged]
  have bounds := ((validBounds_iff skb).mp valid).2.2.2
  have linear := toNat_linearLen valid
  rw [padded]
  refine ⟨rfl, rfl, rfl, rfl, fun packet carries => carries, Memory.holds_nil, ?_⟩
  show (skb.dataOff + skb.linearLen).toNat + 0 ≤ skb.limit.toNat
  rw [toNat_dataOff_add valid]
  omega

/-- Trimming back a buffer without fragments that has grown leaves it with `tail` behind its
bytes. -/
theorem skbTrim_grown (valid : skbValidBounds skb = true) {len : UInt32} (room : skb.Room len)
    (some_ : 0 < len.toNat) (none : skb.dataLen = 0) (frags : skb.frags = []) :
    skbTrim (skb.grown len) skb.len =
      ({ skb with tail := skb.dataOff + skb.linearLen }, []) := by
  have zero : skb.dataLen.toNat = 0 := by rw [none]; rfl
  have whole : (skb.grown len).len.toNat = skb.len.toNat + len.toNat := room.grown.2
  have least : skb.len ≤ (skb.grown len).len := by
    rw [UInt32.le_iff_toNat_le, whole]
    omega
  have cut : skb.len < (skb.grown len).linearLen := by
    rw [UInt32.lt_iff_toNat_lt, toNat_linearLen_grown valid room]
    omega
  have linear : skb.linearLen = skb.len := by
    rw [Buffer.linearLen, none, UInt32.sub_zero]
  have fits := not_lt_linearLen valid
  rw [linear] at fits ⊢
  simp only [skbTrim, validBounds_grown valid room, least, decide_true, Bool.and_self, if_true,
    cut, skbReleaseFrags]
  refine (if_neg fits).trans ?_
  simp only [Buffer.grown, frags, List.filterMap_nil, List.map_nil, Buffer.dataOff, none]

/-- A buffer without fragments is padded where there is room. -/
theorem skbPad_eq (valid : skbValidBounds skb = true) {pad : Int32} (positive : 0 < pad)
    (room : skb.Room pad.toUInt32) (none : skb.dataLen = 0) (frags : skb.frags = []) :
    skbPad pad skb memory =
      ⟨0, { skb with tail := skb.dataOff + skb.linearLen },
        memory.write (skb.head + skb.tail.toNat) (List.replicate pad.toNatClampNeg 0), []⟩ := by
  have least : (0 : Int32) ≤ pad := Int32.le_of_lt positive
  have count : pad.toUInt32.toNat = pad.toNatClampNeg := Int32.toNat_toUInt32_of_le least
  have some_ : 0 < pad.toUInt32.toNat := by
    have more : (0 : Int32).toInt < pad.toInt := Int32.lt_iff_toInt_lt.mp positive
    have zero : (0 : Int32).toInt = 0 := rfl
    rw [count, ← Int32.toNat_toInt]
    omega
  simp only [skbPad, Int32.not_lt.mpr least, if_false, skbPut_eq_some valid room,
    skbTrim_grown valid room some_ none frags, count]

/-- The zeros that are written, with those that are there already, follow the linear bytes. -/
theorem holds_zeros_iff {pad : Int32} :
    (memory.write (skb.head + skb.tail.toNat) (List.replicate pad.toNatClampNeg 0)).Holds
      (skb.data + skb.linearLen.toNat) (List.replicate pad.toNatClampNeg 0) ↔
        ZerosBehind pad skb memory := by
  constructor
  · intro holds offset inside place outside
    have zero := holds.get (show offset < _ by simpa using inside)
    rw [List.getElem_replicate, Memory.write, List.length_replicate, if_neg (by omega)] at zero
    exact zero
  · intro behind
    refine Memory.holds_of_get fun index inside => ?_
    rw [List.length_replicate] at inside
    rw [List.getElem_replicate, Memory.write, List.length_replicate]
    by_cases written : skb.head + skb.tail.toNat ≤ skb.data + skb.linearLen.toNat + index ∧
        skb.data + skb.linearLen.toNat + index <
          skb.head + skb.tail.toNat + pad.toNatClampNeg
    · rw [if_pos written, List.getElem?_replicate, if_pos (by omega)]
    · rw [if_neg written]
      exact behind index inside (by omega)

/-- A buffer without fragments keeps its packet when it is padded. -/
theorem padded_linear (valid : skbValidBounds skb = true) {pad : Int32} (positive : 0 < pad)
    (room : skb.Room pad.toUInt32) (none : skb.dataLen = 0) (frags : skb.frags = [])
    (behind : ZerosBehind pad skb memory) (address : Nat → Nat) :
    Padded address pad skb memory (skbPad pad skb memory) := by
  have count : pad.toUInt32.toNat = pad.toNatClampNeg :=
    Int32.toNat_toUInt32_of_le (Int32.le_of_lt positive)
  have bounds := ((validBounds_iff skb).mp valid).2
  have linear := toNat_linearLen valid
  have fits := room.room
  rw [skbPad_eq valid positive room none frags]
  refine ⟨rfl, rfl, rfl, rfl, fun packet carries => ?_, holds_zeros_iff.mpr behind, ?_⟩
  · obtain ⟨holds, length⟩ := carries.linear none
    refine Buffer.carries_linear (holds.write_of_disjoint ?_) length none frags
    have zero : skb.dataLen.toNat = 0 := by rw [none]; rfl
    have off : skb.dataOff.toNat = (skb.data - skb.head) % 2 ^ 32 := by
      rw [Buffer.dataOff, UInt32.toNat_ofNat']
    have limit := skb.limit.toNat_lt
    rw [List.length_replicate, length]
    -- either `data` lies within 32 bits of `head`, or behind everything that can be written
    rcases Nat.lt_or_ge (skb.data - skb.head) (2 ^ 32) with near | far
    · rw [Nat.mod_eq_of_lt near] at off
      left
      omega
    · right
      omega
  · show (skb.dataOff + skb.linearLen).toNat + pad.toNatClampNeg ≤ skb.limit.toNat
    rw [toNat_dataOff_add valid]
    omega

/-- `skb_pad` refuses, or pads a buffer within its bounds, exactly when it has nothing to do or no
room, or when the buffer has no fragments and `tail` lies behind its bytes or zeros. -/
theorem skbPad_padded_iff (valid : skbValidBounds skb = true) (address : Nat → Nat)
    (pad : Int32) :
    PadsOrRefuses address pad skb memory (skbPad pad skb memory) ↔ PadsSafely pad skb memory := by
  by_cases negative : pad < 0
  · have refused : skbPad pad skb memory = ⟨-EINVAL, skb, memory, []⟩ := if_pos negative
    rw [refused]
    exact ⟨fun _ => .inl (Int32.le_of_lt negative), fun _ =>
      .inl ⟨show -EINVAL < 0 by decide, rfl, rfl⟩⟩
  have least : 0 ≤ pad := Int32.not_lt.mp negative
  by_cases zero : pad = 0
  · subst zero
    exact ⟨fun _ => .inl (Int32.le_refl 0), fun _ => .inr (padded_zero valid address)⟩
  have positive : 0 < pad := Int32.lt_of_le_of_ne least (Ne.symm zero)
  have count : pad.toUInt32.toNat = pad.toNatClampNeg := Int32.toNat_toUInt32_of_le least
  by_cases refused : skb.limit - skb.tail < pad.toUInt32 ∨ 0xffffffff - skb.len < pad.toUInt32
  · have noRoom : skbPut skb pad.toUInt32 = none := by
      rcases refused with full | large
      · simp [skbPut, full]
      · simp [skbPut, large]
    have failed : skbPad pad skb memory = ⟨-ENOMEM, skb, memory, []⟩ := by
      simp only [skbPad, Int32.not_lt.mpr least, if_false, noRoom]
    rw [failed]
    exact ⟨fun _ => .inr (refused.imp_right .inl), fun _ =>
      .inl ⟨show -ENOMEM < 0 by decide, rfl, rfl⟩⟩
  · obtain ⟨roomy, counted⟩ := not_or.mp refused
    have room := Buffer.room_of_not_lt valid roomy counted
    have some_ : 0 < pad.toUInt32.toNat := by
      have more : (0 : Int32).toInt < pad.toInt := Int32.lt_iff_toInt_lt.mp positive
      have none : (0 : Int32).toInt = 0 := rfl
      rw [count, ← Int32.toNat_toInt]
      omega
    have result : skbPad pad skb memory =
        ⟨0, (skbTrim (skb.grown pad.toUInt32) skb.len).1,
          memory.write (skb.head + skb.tail.toNat) (List.replicate pad.toUInt32.toNat 0),
          (skbTrim (skb.grown pad.toUInt32) skb.len).2⟩ := by
      simp only [skbPad, Int32.not_lt.mpr least, if_false, skbPut_eq_some valid room]
    constructor
    · rintro (⟨negative, -⟩ | padded)
      · rw [result] at negative
        exact absurd negative (Int.lt_irrefl 0)
      · have dataLen := padded.dataLen
        have frags := padded.frags
        rw [result] at dataLen frags
        dsimp only at dataLen frags
        rcases Nat.lt_or_ge skb.dataLen.toNat pad.toUInt32.toNat with more | less
        · obtain ⟨dropped, emptied⟩ := skbTrim_grown_linear valid room more
          rw [emptied] at dataLen
          rw [dropped] at frags
          have zeros := padded.zeros
          rw [skbPad_eq valid positive room dataLen.symm frags.symm] at zeros
          exact .inr (.inr (.inr ⟨dataLen.symm, frags.symm, holds_zeros_iff.mp zeros⟩))
        · have taken := skbTrim_grown_paged valid room some_ less
          rw [dataLen] at taken
          omega
    · rintro (none | full | large | ⟨none, frags, behind⟩)
      · exact absurd none (Int32.not_le.mpr positive)
      · exact absurd full roomy
      · exact absurd large counted
      · exact .inr (padded_linear valid positive room none frags behind address)

end Padding

/-- Two zeros are put behind the packet. -/
theorem skbPad_padded_oneByte :
    PadsOrRefuses id 2 oneByte oneByteMemory (skbPad 2 oneByte oneByteMemory) := by
  refine (skbPad_padded_iff (by decide) id 2).mpr (.inr (.inr (.inr ⟨rfl, rfl, ?_⟩)))
  intro offset inside place outside
  have count : (2 : Int32).toNatClampNeg = 2 := rfl
  have start : place = 4098 + offset := rfl
  have tail : oneByte.head + oneByte.tail.toNat = 4098 := rfl
  omega

/-- Padding takes the byte out of the fragment. -/
theorem skbPad_loses_fragment : ¬∀ (skb : Buffer) (memory : Memory) (pad : Int32),
    skbValidBounds skb = true →
      PadsOrRefuses (fun _ => 4096) pad skb memory (skbPad pad skb memory) := by
  intro always
  rcases always oneFragment oneByteMemory 1 (by decide) with ⟨refused, -⟩ | padded
  · exact absurd refused (by decide)
  · exact absurd padded.dataLen (by decide)

end Lcompat.Net.Paged

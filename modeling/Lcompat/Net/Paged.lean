import Lcompat.Errno
import Lcompat.Net.Skbuff

/-!
# Socket buffers and their pages

`struct sk_buff` by its addresses, with the page of its head, over one memory of all addresses.
What `__dev_alloc_pages` returns for an order is an argument of the functions that call it:
nothing, or a page with its address, which is `NULL` where there are no frames. Copying bytes from
or to `NULL` is a fault. What the functions do to pages and to the memory of buffers is noted in
the order in which they do it.
-/

namespace Lcompat.Net.Paged

open Lcompat.Logic

/-- `struct sk_buff`, without its links and its checksum state. -/
structure Buffer where
  /-- `head`; zero is `NULL`. -/
  head : Nat
  /-- `data`. -/
  data : Nat
  /-- `head_page`, unless that is null. -/
  headPage : Option Nat
  /-- `len`. -/
  len : UInt32
  /-- `tail`. -/
  tail : UInt32
  /-- `end`. -/
  limit : UInt32
  /-- `priority`. -/
  priority : UInt32
  /-- `data_len`. -/
  dataLen : UInt32
  /-- `queue_mapping`. -/
  queueMapping : UInt16
  /-- `cb`. -/
  cb : Vector UInt8 128
  /-- The first `nr_frags` of `frags`; the others are zero. -/
  frags : List Frag
  deriving DecidableEq

/-- What a function does to pages and to the memory of buffers. -/
inductive PageEvent where
  /-- `__dev_alloc_pages` returns a page, with one reference. -/
  | alloc (order : UInt32) (page : Nat)
  /-- The caller hands over a reference of a page. -/
  | give (page : Nat)
  /-- Bytes of a page are read or written. -/
  | touch (page : Nat)
  /-- `put_page`. -/
  | put (page : Nat)
  /-- `kfree` of memory at an address that is in no page. -/
  | kfree (addr : Nat)
  /-- `kzalloc` of a `struct sk_buff`. -/
  | allocSkb
  /-- `kfree` of a `struct sk_buff`. -/
  | freeSkb
  deriving DecidableEq

/-- What a function comes to. -/
structure Outcome where
  /-- What it returns. -/
  result : Int
  /-- The buffer. -/
  skb : Buffer
  /-- The memory. -/
  memory : Memory
  /-- What it has done to pages. -/
  events : List PageEvent

/-- The offset of `data`, as `unsigned int`. -/
def Buffer.dataOff (skb : Buffer) : UInt32 := UInt32.ofNat (skb.data - skb.head)

/-- `len` without `data_len`, as `unsigned int`. -/
def Buffer.linearLen (skb : Buffer) : UInt32 := skb.len - skb.dataLen

/-- `lcompat_skb_valid_bounds`. -/
def skbValidBounds (skb : Buffer) : Bool :=
  if skb.head = 0 || skb.data < skb.head then false
  else if skb.dataLen > skb.len then false
  else if skb.dataOff > skb.limit || skb.tail > skb.limit then false
  else if skb.linearLen > skb.limit - skb.dataOff then false
  else if skb.tail < skb.dataOff || skb.linearLen > skb.tail - skb.dataOff then false
  else true

/-- The loop of `get_order`, which has at most 64 turns. -/
def orderLoop : Nat → UInt64 → UInt32 → UInt32
  | 0, _, order => order
  | turns + 1, pages, order =>
    if pages = 0 then order else orderLoop turns (pages >>> 1) (order + 1)

/-- `get_order`. -/
def getOrder (size : UInt64) : UInt32 :=
  if size ≤ 4096 then 0 else orderLoop 64 ((size - 1) >>> 12) 0

/-- `memcpy` to an offset from some memory that has been allocated, unless that is `NULL`. -/
def memcpy (base offset source count : Nat) (memory : Memory) : Option Memory :=
  if base = 0 ∧ count ≠ 0 then none else some (memory.copy (base + offset) source count)

/-- What `__dev_alloc_pages` returns for an order: nothing, or a page with its address. -/
abbrev PageAlloc := UInt32 → Option (Nat × Nat)

/-- `alloc_skb`, given whether `kzalloc` succeeds. -/
def allocSkb (object : Bool) (alloc : PageAlloc) (size : UInt64) :
    Option Buffer × List PageEvent :=
  if !object then (none, [])
  else if size > 0xffffffff then (none, [.allocSkb, .freeSkb])
  else
    let order := getOrder (if size ≠ 0 then size else 1)
    match alloc order with
    | none => (none, [.allocSkb, .freeSkb])
    | some (page, address) =>
      (some
        { head := address, data := address, headPage := some page, len := 0, tail := 0
          limit := size.toUInt32, priority := 0, dataLen := 0, queueMapping := 0
          cb := Vector.replicate 128 0, frags := [] }, [.allocSkb, .alloc order page])

/-- `build_skb`, given whether `kzalloc` succeeds and what `virt_to_head_page` returns. -/
def buildSkb (object : Bool) (data : Nat) (page : Option Nat) (fragSize : UInt64) :
    Option Buffer :=
  if data = 0 then none
  else if fragSize > 0xffffffff then none
  else if !object then none
  else some
    { head := data, data, headPage := page, len := 0, tail := 0, limit := fragSize.toUInt32
      priority := 0, dataLen := 0, queueMapping := 0, cb := Vector.replicate 128 0, frags := [] }

/-- `lcompat_skb_release_frags`. -/
def skbReleaseFrags (skb : Buffer) : Buffer × List PageEvent :=
  ({ skb with frags := [], dataLen := 0 }, (skb.frags.filterMap Frag.page).map .put)

/-- The end of `head`: its page is put, or it is freed. -/
def putHead (skb : Buffer) : List PageEvent :=
  match skb.headPage with
  | some page => [.put page]
  | none => [.kfree skb.head]

/-- `kfree_skb`. -/
def kfreeSkb (skb : Buffer) : List PageEvent :=
  (skbReleaseFrags skb).2 ++ putHead skb ++ [.freeSkb]

/-- The bytes at `head` are read. -/
def touchHead (skb : Buffer) : List PageEvent := skb.headPage.toList.map .touch

/-- `skb_cow_head`. -/
def skbCowHead (alloc : PageAlloc) (headroom : UInt32) (skb : Buffer) (memory : Memory) :
    Option Outcome :=
  if !skbValidBounds skb then some ⟨-EINVAL, skb, memory, []⟩
  else if skb.dataOff ≥ headroom then some ⟨0, skb, memory, []⟩
  else
    let linearLen := skb.linearLen
    let tailroom := skb.limit - skb.tail
    if headroom > 0xffffffff - linearLen || headroom + linearLen > 0xffffffff - tailroom then
      some ⟨-ENOMEM, skb, memory, []⟩
    else
      let newEnd := headroom + linearLen + tailroom
      let order := getOrder (if newEnd ≠ 0 then newEnd.toUInt64 else 1)
      match alloc order with
      | none => some ⟨-ENOMEM, skb, memory, []⟩
      | some (page, address) =>
        (memcpy address headroom.toNat skb.data linearLen.toNat memory).map fun memory =>
          { result := 0
            skb :=
              { skb with
                head := address
                headPage := some page
                data := address + headroom.toNat
                tail := headroom + linearLen
                limit := newEnd }
            memory
            events := .alloc order page :: touchHead skb ++ .touch page :: putHead skb }

/-- `skb_copy`, with the buffer that it returns, if it returns one. -/
def skbCopy (object : Bool) (alloc : PageAlloc) (skb : Buffer) (memory : Memory) :
    Option (Option Buffer × Memory × List PageEvent) :=
  if !skbValidBounds skb then some (none, memory, [])
  else
    match allocSkb object alloc skb.limit.toUInt64 with
    | (none, events) => some (none, memory, events)
    | (some new, events) =>
      let dataOff := skb.dataOff
      let linearLen := skb.linearLen
      let new := { new with
        data := new.head + dataOff.toNat
        tail := dataOff + linearLen
        len := linearLen
        priority := skb.priority
        queueMapping := skb.queueMapping
        cb := skb.cb }
      (memcpy new.head dataOff.toNat skb.data linearLen.toNat memory).map fun memory =>
        (some new, memory, events ++ touchHead skb ++ touchHead new)

/-- `skb_put`: the room, and the buffer with the room. -/
def skbPut (skb : Buffer) (len : UInt32) : Option (Nat × Buffer) :=
  if !skbValidBounds skb || len > skb.limit - skb.tail || len > 0xffffffff - skb.len then none
  else
    some (skb.head + skb.tail.toNat, { skb with tail := skb.tail + len, len := skb.len + len })

/-- `skb_reserve`. -/
def skbReserve (skb : Buffer) (len : UInt32) : Buffer :=
  if !skbValidBounds skb || len > skb.limit - skb.tail then skb
  else { skb with data := skb.data + len.toNat, tail := skb.tail + len }

/-- `skb_push`: the buffer with more room in front, whose `data` is returned. -/
def skbPush (skb : Buffer) (len : UInt32) : Option Buffer :=
  if !skbValidBounds skb || skb.dataOff < len || len > 0xffffffff - skb.len then none
  else some { skb with data := skb.data - len.toNat, len := skb.len + len }

/-- `skb_pull`: the buffer without some bytes, whose `data` is returned. -/
def skbPull (skb : Buffer) (len : UInt32) : Option Buffer :=
  if !skbValidBounds skb || len > skb.len then none
  else some { skb with data := skb.data + len.toNat, len := skb.len - len }

/-- How far the loop of `skb_linearize` is. -/
structure Copied where
  /-- No page was missing. -/
  ok : Bool
  /-- `copied`. -/
  copied : UInt32
  /-- The memory. -/
  memory : Memory
  /-- What was done to pages. -/
  events : List PageEvent

/-- The loop of `skb_linearize`, given the addresses of pages and the new head. -/
def copyFrags (address : Nat → Nat) (base : Nat) (dataOff len : UInt32) :
    List Frag → Copied → Option Copied
  | [], state => some state
  | frag :: frags, state =>
    if state.copied < len then
      let fragLen := min frag.size (len - state.copied)
      match frag.page with
      | none => some { state with ok := false }
      | some page =>
        if address page = 0 then some { state with ok := false }
        else
          (memcpy base (dataOff.toNat + state.copied.toNat)
            (address page + frag.pageOffset.toNat) fragLen.toNat state.memory).bind fun memory =>
              copyFrags address base dataOff len frags
                { state with
                  copied := state.copied + fragLen
                  memory
                  events := state.events ++ [.touch page] }
    else some state

/-- `skb_linearize`, given the addresses of pages. -/
def skbLinearize (alloc : PageAlloc) (address : Nat → Nat) (skb : Buffer) (memory : Memory) :
    Option Outcome :=
  if !skbValidBounds skb then some ⟨-EINVAL, skb, memory, []⟩
  else if skb.dataLen = 0 then some ⟨0, skb, memory, []⟩
  else
    let dataOff := skb.dataOff
    let linearLen := skb.linearLen
    if skb.len > 0xffffffff - dataOff then some ⟨-ENOMEM, skb, memory, []⟩
    else
      let newSize := dataOff + skb.len
      let order := getOrder (if newSize ≠ 0 then newSize.toUInt64 else 1)
      match alloc order with
      | none => some ⟨-ENOMEM, skb, memory, []⟩
      | some (page, newHead) =>
        (memcpy newHead dataOff.toNat skb.data linearLen.toNat memory).bind fun memory =>
          (copyFrags address newHead dataOff skb.len skb.frags
            ⟨true, linearLen, memory, .alloc order page :: touchHead skb ++ [.touch page]⟩).map
              fun state =>
                if !state.ok || state.copied ≠ skb.len then
                  ⟨-EINVAL, skb, state.memory, state.events ++ [.put page]⟩
                else
                  let (released, puts) := skbReleaseFrags skb
                  { result := 0
                    skb :=
                      { released with
                        headPage := some page
                        head := newHead
                        data := newHead + dataOff.toNat
                        tail := dataOff + skb.len
                        limit := dataOff + skb.len }
                    memory := state.memory
                    events := state.events ++ puts ++ putHead skb }

/-- `skb_add_rx_frag`, with the reference of the page that it takes. -/
def skbAddRxFrag (i : Int32) (page : Option Nat) (off size : Int32) (skb : Buffer) :
    Buffer × List PageEvent :=
  match page with
  | none => (skb, [])
  | some page =>
    if i < 0 || i ≥ 8 || off < 0 || size < 0 then (skb, [])
    else
      let frag : Frag := ⟨some page, off.toUInt32, size.toUInt32⟩
      let i := i.toNatClampNeg
      ({ skb with
          frags :=
            if i < skb.frags.length then skb.frags.set i frag
            else skb.frags ++ List.replicate (i - skb.frags.length) ⟨none, 0, 0⟩ ++ [frag]
          len := skb.len + size.toUInt32
          dataLen := skb.dataLen + size.toUInt32 }, [.give page])

/-- `skb_trim`. -/
def skbTrim (skb : Buffer) (len : UInt32) : Buffer × List PageEvent :=
  if skbValidBounds skb && len ≤ skb.len then
    let (skb, linearLen, events) :=
      if len < skb.linearLen then ((skbReleaseFrags skb).1, len, (skbReleaseFrags skb).2)
      else if len < skb.len then
        ({ skb with dataLen := skb.dataLen - (skb.len - len) }, skb.linearLen, [])
      else (skb, skb.linearLen, [])
    if linearLen > skb.limit - skb.dataOff then (skb, events)
    else ({ skb with len, tail := skb.dataOff + linearLen }, events)
  else (skb, [])

/-- `skb_pad`. -/
def skbPad (pad : Int32) (skb : Buffer) (memory : Memory) : Outcome :=
  if pad < 0 then ⟨-EINVAL, skb, memory, []⟩
  else
    match skbPut skb pad.toUInt32 with
    | none => ⟨-ENOMEM, skb, memory, []⟩
    | some (pos, room) =>
      let (trimmed, events) := skbTrim room skb.len
      ⟨0, trimmed, memory.write pos (List.replicate pad.toUInt32.toNat 0), events⟩

/-- `skb_reset_tail_pointer`. -/
def skbResetTailPointer (skb : Buffer) : Buffer :=
  if skb.head = 0 || skb.data < skb.head then skb
  else if skb.dataOff > skb.limit then skb
  else { skb with len := 0, tail := skb.dataOff }

/-- `skb_headlen`. -/
def skbHeadlen (skb : Buffer) : UInt32 := if skb.len ≥ skb.dataLen then skb.linearLen else 0

/-- The pages that a buffer refers to, with its head first. -/
def Buffer.pages (skb : Buffer) : List Nat := skb.headPage.toList ++ skb.frags.filterMap Frag.page

/-- Some fragments hold some bytes, one behind the other. -/
def FragsHold (address : Nat → Nat) (memory : Memory) : List Frag → List UInt8 → Prop
  | [], bytes => bytes = []
  | frag :: frags, bytes => ∃ page front back, frag.page = some page ∧
      memory.Holds (address page + frag.pageOffset.toNat) front ∧
        front.length = frag.size.toNat ∧ FragsHold address memory frags back ∧
          bytes = front ++ back

/-- The packet of a buffer: the linear bytes and those of the fragments, cut to `len`. -/
def Buffer.Carries (skb : Buffer) (address : Nat → Nat) (memory : Memory) (packet : List UInt8) :
    Prop :=
  ∃ linear paged, memory.Holds skb.data linear ∧ linear.length = skb.linearLen.toNat ∧
    FragsHold address memory skb.frags paged ∧ packet = (linear ++ paged).take skb.len.toNat

/-- The bounds of a buffer, as distances. -/
theorem validBounds_iff (skb : Buffer) : skbValidBounds skb = true ↔
    skb.head ≠ 0 ∧ skb.head ≤ skb.data ∧ skb.dataLen.toNat ≤ skb.len.toNat ∧
      skb.tail.toNat ≤ skb.limit.toNat ∧
        skb.dataOff.toNat + (skb.len.toNat - skb.dataLen.toNat) ≤ skb.tail.toNat := by
  unfold skbValidBounds Buffer.linearLen
  have len := skb.len.toNat_lt
  have tail := skb.tail.toNat_lt
  have limit := skb.limit.toNat_lt
  have off := skb.dataOff.toNat_lt
  simp [UInt32.lt_iff_toNat_lt, UInt32.toNat_sub]
  omega

/-- The length of the linear part of a buffer within its bounds. -/
theorem toNat_linearLen {skb : Buffer} (valid : skbValidBounds skb = true) :
    skb.linearLen.toNat = skb.len.toNat - skb.dataLen.toNat := by
  have less := ((validBounds_iff skb).mp valid).2.2.1
  rw [Buffer.linearLen, UInt32.toNat_sub_of_le _ _ (UInt32.le_iff_toNat_le.mpr less)]

/-- A number has one binary digit more than its half. -/
theorem size_eq_succ {n : Nat} (some_ : n ≠ 0) : n.size = (n / 2).size + 1 := by
  have less := n.lt_size_self
  have half := (n / 2).lt_size_self
  have positive : 0 < n.size := Nat.size_pos.mpr (Nat.pos_of_ne_zero some_)
  apply Nat.le_antisymm
  · rw [Nat.size_le, Nat.pow_succ]
    omega
  · have power : 2 ^ n.size = 2 ^ (n.size - 1) * 2 := by
      rw [← Nat.pow_succ, Nat.succ_eq_add_one, Nat.sub_add_cancel positive]
    have digits : (n / 2).size ≤ n.size - 1 := Nat.size_le.mpr (by omega)
    omega

/-- The turns of the loop of `get_order` count the binary digits of the pages. -/
theorem toNat_orderLoop (turns : Nat) (pages : UInt64) (order : UInt32)
    (enough : pages.toNat < 2 ^ turns) (small : order.toNat + turns < 2 ^ 32) :
    (orderLoop turns pages order).toNat = order.toNat + pages.toNat.size := by
  induction turns generalizing pages order with
  | zero =>
    have none : pages.toNat = 0 := by omega
    rw [orderLoop, none, Nat.size_zero, Nat.add_zero]
  | succ turns ih =>
    by_cases done : pages = 0
    · rw [orderLoop, if_pos done, done, UInt64.toNat_zero, Nat.size_zero, Nat.add_zero]
    · have some_ : pages.toNat ≠ 0 := fun none => done (UInt64.toNat_inj.mp none)
      have half : (pages >>> 1).toNat = pages.toNat / 2 := by
        rw [UInt64.toNat_shiftRight]
        show pages.toNat >>> 1 = _
        rw [Nat.shiftRight_eq_div_pow, Nat.pow_one]
      have next : (order + 1).toNat = order.toNat + 1 := by
        rw [UInt32.toNat_add]
        exact Nat.mod_eq_of_lt (by show order.toNat + 1 < _; omega)
      rw [Nat.pow_succ] at enough
      have counted := ih (pages >>> 1) (order + 1) (by rw [half]; omega) (by omega)
      rw [orderLoop, if_neg done, counted, half, next, size_eq_succ some_]
      omega

/-- `get_order` counts the binary digits of the number of pages before the last one. -/
theorem toNat_getOrder (size : UInt64) :
    (getOrder size).toNat = ((size.toNat - 1) / 4096).size := by
  by_cases small : size ≤ 4096
  · have bound : size.toNat ≤ 4096 := UInt64.le_iff_toNat_le.mp small
    have none : (size.toNat - 1) / 4096 = 0 := by omega
    rw [getOrder, if_pos small, none, Nat.size_zero, UInt32.toNat_zero]
  · have bound : 4096 < size.toNat := UInt64.lt_iff_toNat_lt.mp (UInt64.not_le.mp small)
    have less : (size - 1).toNat = size.toNat - 1 := by
      rw [UInt64.toNat_sub_of_le _ _ (UInt64.le_iff_toNat_le.mpr (by show 1 ≤ size.toNat; omega))]
      rfl
    have pages : ((size - 1) >>> 12).toNat = (size.toNat - 1) / 4096 := by
      rw [UInt64.toNat_shiftRight, less]
      show (size.toNat - 1) >>> 12 = _
      rw [Nat.shiftRight_eq_div_pow]
    have top := size.toNat_lt
    have counted := toNat_orderLoop 64 ((size - 1) >>> 12) 0 (by rw [pages]; omega) (by decide)
    rw [getOrder, if_neg small, counted, UInt32.toNat_zero, Nat.zero_add, pages]

/-- The order that `get_order` returns is at most those whose pages cover the size. -/
theorem getOrder_le_iff (size : UInt64) (order : Nat) :
    (getOrder size).toNat ≤ order ↔ size.toNat ≤ 4096 * 2 ^ order := by
  have page := Nat.two_pow_pos order
  rw [toNat_getOrder, Nat.size_le]
  omega

/-- The pages of the order that `get_order` returns cover the size. -/
theorem getOrder_covers (size : UInt64) :
    size.toNat ≤ 4096 * 2 ^ (getOrder size).toNat :=
  (getOrder_le_iff size _).mp (Nat.le_refl _)

section View

variable {skb : Buffer} {memory : Memory} {base : SkBuff}

/-- A buffer as its users see it: with the memory at `head`, and the fields that are not of
interest here. -/
def Buffer.view (skb : Buffer) (memory : Memory) (base : SkBuff) : SkBuff :=
  { base with
    head := if skb.head = 0 then none else some fun offset => memory (skb.head + offset)
    data := skb.data - skb.head
    len := skb.len
    tail := skb.tail
    limit := skb.limit
    dataLen := skb.dataLen
    frags := skb.frags
    priority := skb.priority
    queueMapping := skb.queueMapping }

/-- The bounds of a buffer are those that its users see. -/
theorem skbValidBounds_view (order : skb.head ≤ skb.data) :
    Net.skbValidBounds (skb.view memory base) = skbValidBounds skb := by
  unfold Net.skbValidBounds skbValidBounds
  by_cases null : skb.head = 0
  · simp [Buffer.view, null]
  · have inside : ¬skb.data < skb.head := by omega
    simp only [Buffer.view, null, inside, if_false, Option.isNone_some, Bool.false_eq_true,
      decide_false, Bool.or_self]
    rfl

/-- The room that `skb_put` makes is the room that its users see. -/
theorem skbPut_view (order : skb.head ≤ skb.data) (len : UInt32) :
    Net.skbPut (skb.view memory base) len =
      (skbPut skb len).map fun room => (room.1 - skb.head, room.2.view memory base) := by
  unfold Net.skbPut skbPut
  rw [skbValidBounds_view order]
  by_cases refused : (!skbValidBounds skb || len > skb.limit - skb.tail ||
      len > 0xffffffff - skb.len) = true
  · rw [if_pos refused]
    exact if_pos refused
  · rw [if_neg refused, Option.map_some, Nat.add_sub_cancel_left]
    exact if_neg refused

/-- What `skb_reserve` leaves is what its users see. -/
theorem skbReserve_view (order : skb.head ≤ skb.data) (len : UInt32) :
    Net.skbReserve (skb.view memory base) len = (skbReserve skb len).view memory base := by
  unfold Net.skbReserve skbReserve
  rw [skbValidBounds_view order]
  by_cases refused : (!skbValidBounds skb || len > skb.limit - skb.tail) = true
  · rw [if_pos refused]
    exact if_pos refused
  · rw [if_neg refused]
    refine (if_neg refused).trans ?_
    simp only [Buffer.view, SkBuff.mk.injEq, and_true, true_and]
    omega

/-- What `skb_trim` leaves is what its users see. -/
theorem skbTrim_view (order : skb.head ≤ skb.data) (len : UInt32) :
    Net.skbTrim (skb.view memory base) len = (skbTrim skb len).1.view memory base := by
  unfold Net.skbTrim skbTrim
  rw [skbValidBounds_view order]
  by_cases trims : (skbValidBounds skb && len ≤ skb.len) = true
  · rw [if_pos trims]
    refine (if_pos trims).trans ?_
    by_cases cut : len < skb.linearLen
    · have cut' : len < skb.len - skb.dataLen := cut
      simp only [Buffer.view, cut, cut', if_true, skbReleaseFrags, Buffer.dataOff,
        Net.skbReleaseFrags]
      split <;> rfl
    · have cut' : ¬len < skb.len - skb.dataLen := cut
      by_cases shorter : len < skb.len
      · simp only [Buffer.view, cut', shorter, if_true, if_false, Buffer.dataOff, Buffer.linearLen]
        split <;> rfl
      · simp only [Buffer.view, cut', shorter, if_false, Buffer.dataOff, Buffer.linearLen]
        split <;> rfl
  · rw [if_neg trims]
    exact if_neg trims

/-- What `__dev_alloc_pages` returns, as the users of a buffer see it. -/
def seenPage (memory : Memory) : Option (Nat × Nat) → Page
  | none => .failed
  | some (_, address) =>
    if address = 0 then .unmapped else .mapped fun offset => memory (address + offset)

/-- The buffer that `alloc_skb` returns is the buffer that its users see. -/
theorem allocSkb_view (alloc : PageAlloc) (size : UInt64) (id : Nat) :
    Net.allocSkb (seenPage memory (alloc (getOrder (if size ≠ 0 then size else 1)))) id
        size.toNat =
      (allocSkb true alloc size).1.map fun skb =>
        skb.view memory ⟨id, none, 0, 0, 0, 0, 0, [], 0, 0, 0, .zero⟩ := by
  have bound : size.toNat > uintMax ↔ size > 0xffffffff := by
    rw [gt_iff_lt, gt_iff_lt, UInt64.lt_iff_toNat_lt]
    exact Iff.rfl
  unfold Net.allocSkb allocSkb
  by_cases large : size > 0xffffffff
  · simp only [bound.mpr large, large, if_true, Bool.not_true, Bool.false_eq_true, if_false,
      Option.map_none]
  · simp only [mt bound.mp large, large, if_false, Bool.not_true, Bool.false_eq_true]
    rcases alloc (getOrder (if size ≠ 0 then size else 1)) with _ | ⟨page, address⟩
    · rfl
    · have limit : UInt32.ofNat size.toNat = size.toUInt32 := by
        apply UInt32.toNat_inj.mp
        simp
      by_cases null : address = 0
      · simp [seenPage, Buffer.view, null, limit]
      · simp [seenPage, Buffer.view, null, limit]

end View

end Lcompat.Net.Paged

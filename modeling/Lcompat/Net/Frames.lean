import Lcompat.Net.Sgvec

/-!
# Pages without frames

`lcompat_page_alloc` does not look at what `alloc_frames_bytes` returns. The requests that come to
it are `__dev_alloc_pages`, `page_pool_alloc_frag`, `alloc_skb`, `skb_cow_head` and
`skb_linearize`, run here over a registry and given what the allocators return: where there are no
frames, a page is returned all the same, with `NULL` for its address.
-/

namespace Lcompat.Net.Paged

open Lcompat.Logic PagePool

variable {Pool : Type} [DecidableEq Pool]

/-- What the allocators return during a request. -/
structure Returns where
  /-- `kzalloc` of a `struct sk_buff` succeeds. -/
  object : Bool
  /-- What `kzalloc` of a `struct page` returns. -/
  memory : Option Nat
  /-- What `alloc_frames_bytes` returns. -/
  frames : UInt64

/-- What `__dev_alloc_pages` returns in a registry. -/
def devPages (r : Returns) (s : Pages Nat Pool) : PageAlloc := fun order =>
  (devAllocPages order r.memory r.frames s).bind fun (s', page) =>
    page.map fun page => (page, pageAddress s' page)

/-- What an event does to the registry. -/
def PageEvent.apply (r : Returns) (s : Pages Nat Pool) : PageEvent → Option (Pages Nat Pool)
  | .alloc order _ => (devAllocPages order r.memory r.frames s).map Prod.fst
  | .put page => putPage page s
  | .give _ | .touch _ | .kfree _ | .allocSkb | .freeSkb => some s

/-- What some events do to the registry. -/
def applyEvents (r : Returns) (events : List PageEvent) (s : Pages Nat Pool) :
    Option (Pages Nat Pool) :=
  events.foldlM (fun s event => event.apply r s) s

/-- A request that may come to `lcompat_page_alloc`. -/
inductive Request (Pool : Type) where
  /-- `__dev_alloc_pages`. -/
  | devAllocPages (order : UInt32)
  /-- `page_pool_alloc_frag`. -/
  | allocFrag (pool : Option Pool) (size : UInt32)
  /-- `alloc_skb`. -/
  | allocSkb (size : UInt64)
  /-- `skb_cow_head`. -/
  | cowHead (headroom : UInt32) (skb : Buffer)
  /-- `skb_linearize`. -/
  | linearize (skb : Buffer)

/-- What a request returns, with the buffer and the memory that it leaves. -/
inductive Reply where
  /-- A page, or `NULL`. -/
  | page (page : Option Nat)
  /-- A buffer, or `NULL`. -/
  | buffer (skb : Option Buffer)
  /-- A number. -/
  | code (result : Int) (skb : Buffer) (memory : Memory)

/-- What a request comes to. -/
structure Answer (Pool : Type) where
  /-- What it returns. -/
  reply : Reply
  /-- What it has done to pages and to buffers. -/
  events : List PageEvent
  /-- The registry. -/
  pages : Pages Nat Pool

/-- The answer of a function that leaves a buffer. -/
def Outcome.answer (r : Returns) (s : Pages Nat Pool) (outcome : Outcome) :
    Option (Answer Pool) :=
  (applyEvents r outcome.events s).map fun pages =>
    ⟨.code outcome.result outcome.skb outcome.memory, outcome.events, pages⟩

/-- What a request comes to, unless it faults, given the addresses of the pages that there are. -/
def Request.run (r : Returns) (address : Nat → Nat) (memory : Memory) (s : Pages Nat Pool) :
    Request Pool → Option (Answer Pool)
  | .devAllocPages order => (PagePool.devAllocPages order r.memory r.frames s).map fun (s, page) =>
    ⟨.page page, [], s⟩
  | .allocFrag pool size => (pagePoolAllocFrag pool size r.memory r.frames s).map fun (s, frag) =>
    ⟨.page (frag.map Prod.fst), [], s⟩
  | .allocSkb size =>
    let (skb, events) := Paged.allocSkb r.object (devPages r s) size
    (applyEvents r events s).map fun s => ⟨.buffer skb, events, s⟩
  | .cowHead headroom skb =>
    (skbCowHead (devPages r s) headroom skb memory).bind (Outcome.answer r s)
  | .linearize skb => (skbLinearize (devPages r s) address skb memory).bind (Outcome.answer r s)

/-- The room that `skb_cow_head` needs. -/
def cowSize (headroom : UInt32) (skb : Buffer) : UInt32 :=
  headroom + skb.linearLen + (skb.limit - skb.tail)

/-- The room that `skb_linearize` needs. -/
def linearSize (skb : Buffer) : UInt32 := skb.dataOff + skb.len

/-- The number of bytes for which `get_order` is called. -/
def atLeastOne (size : UInt64) : UInt64 := if size ≠ 0 then size else 1

/-- The pool and the size with which a request calls `lcompat_page_alloc`, if it does. -/
def Request.asks (object : Bool) : Request Pool → Option (Option Pool × UInt64)
  | .devAllocPages order =>
    if order < 64 then some (none, pageSize <<< order.toUInt64) else none
  | .allocFrag pool size => some (pool, if size ≠ 0 then size.toUInt64 else pageSize)
  | .allocSkb size =>
    if object && size ≤ 0xffffffff then
      some (none, pageSize <<< (getOrder (atLeastOne size)).toUInt64)
    else none
  | .cowHead headroom skb =>
    if skbValidBounds skb && skb.dataOff < headroom && headroom ≤ 0xffffffff - skb.linearLen &&
        headroom + skb.linearLen ≤ 0xffffffff - (skb.limit - skb.tail) then
      some (none, pageSize <<< (getOrder (atLeastOne (cowSize headroom skb).toUInt64)).toUInt64)
    else none
  | .linearize skb =>
    if skbValidBounds skb && skb.dataLen ≠ 0 && skb.len ≤ 0xffffffff - skb.dataOff then
      some (none, pageSize <<< (getOrder (atLeastOne (linearSize skb).toUInt64)).toUInt64)
    else none

/-- How many bytes are requested. -/
def Request.size : Request Pool → Nat
  | .devAllocPages order => 4096 * 2 ^ order.toNat
  | .allocFrag _ size => size.toNat
  | .allocSkb size => size.toNat
  | .cowHead headroom skb => (cowSize headroom skb).toNat
  | .linearize skb => (linearSize skb).toNat

/-- A request comes to `alloc_frames_bytes`. -/
def Request.ReachesFrames (request : Request Pool) (r : Returns) : Prop :=
  (request.asks r.object).isSome = true ∧ r.memory.isSome = true

/-- What a request should return where it fails, with everything as it was. -/
def Request.Refusal (request : Request Pool) (memory : Memory) (reply : Reply) : Prop :=
  match request with
  | .devAllocPages _ | .allocFrag _ _ => reply = .page none
  | .allocSkb _ => reply = .buffer none
  | .cowHead _ skb | .linearize skb => ∃ result < 0, reply = .code result skb memory

/-- A request fails: the buffer and the registry are as before, and nothing is leaked. -/
structure Refused (request : Request Pool) (r : Returns) (address : Nat → Nat) (memory : Memory)
    (s : Pages Nat Pool) : Prop where
  /-- What it comes to. -/
  answered : ∃ answer, request.run r address memory s = some answer ∧
    request.Refusal memory answer.reply ∧
    answer.events.count .allocSkb = answer.events.count .freeSkb ∧
    answer.pages.links = s.links ∧ answer.pages.page = s.page ∧
    answer.pages.allocated = s.allocated ∧ answer.pages.freed = s.freed

/-- What a request should do with what `alloc_frames_bytes` returns. -/
structure FramesHandled (request : Request Pool) (r : Returns) (address : Nat → Nat)
    (memory : Memory) (s : Pages Nat Pool) : Prop where
  /-- Without frames it fails. -/
  refused : request.ReachesFrames r → r.frames = 0 → Refused request r address memory s
  /-- A page that is returned has an address, and the bytes that are requested. -/
  usable : ∀ pool size, request.asks r.object = some (pool, size) →
    ∀ s' page, lcompatPageAlloc pool size r.memory r.frames s = some (s', some page) →
      ∃ found, s'.page page = some found ∧ found.addr ≠ 0 ∧ request.size ≤ found.size.toNat

/-- The order of a request for pages can be counted in bytes. -/
def Request.Counted : Request Pool → Prop
  | .devAllocPages order => order < 64 → order < 52
  | .allocFrag _ _ | .allocSkb _ | .cowHead _ _ | .linearize _ => True

section Sizes

/-- The size of the pages of an order is a number of pages modulo `2 ^ 64`. -/
theorem toNat_pages {order : UInt32} (small : order < 64) :
    (pageSize <<< order.toUInt64).toNat = 4096 * 2 ^ order.toNat % 2 ^ 64 := by
  have less : order.toNat < 64 := UInt32.lt_iff_toNat_lt.mp small
  have count : order.toUInt64.toNat = order.toNat := UInt32.toNat_toUInt64 order
  have page : pageSize.toNat = 4096 := rfl
  rw [UInt64.toNat_shiftLeft, count, page, Nat.mod_eq_of_lt less, Nat.shiftLeft_eq]

/-- The size of the pages of an order below 52. -/
theorem toNat_pages_of_lt {order : UInt32} (small : order < 52) :
    (pageSize <<< order.toUInt64).toNat = 4096 * 2 ^ order.toNat := by
  have less : order.toNat < 52 := UInt32.lt_iff_toNat_lt.mp small
  have below : order < 64 := UInt32.lt_iff_toNat_lt.mpr (Nat.lt_trans less (by decide))
  have power : 2 ^ order.toNat ≤ 2 ^ 51 := Nat.pow_le_pow_right (by decide) (by omega)
  rw [toNat_pages below, Nat.mod_eq_of_lt (by omega)]

/-- The pages of an order from 52 on are no bytes. -/
theorem pages_of_le {order : UInt32} (small : order < 64) (large : 52 ≤ order) :
    pageSize <<< order.toUInt64 = 0 := by
  have most : order.toNat < 64 := UInt32.lt_iff_toNat_lt.mp small
  have least : 52 ≤ order.toNat := UInt32.le_iff_toNat_le.mp large
  apply UInt64.toNat_inj.mp
  obtain ⟨more, same⟩ := Nat.exists_eq_add_of_le least
  rw [toNat_pages small, same, Nat.pow_add, ← Nat.mul_assoc]
  exact Nat.mul_mod_right (2 ^ 64) (2 ^ more)

/-- The size of the pages of an order can be asked for. -/
theorem allocSize_pages {order : UInt32} (small : order < 64) :
    allocSize (pageSize <<< order.toUInt64) ≤ sizeMax - sizeofPage := by
  have bound : (sizeMax - sizeofPage).toNat = 2 ^ 64 - 57 := by decide +kernel
  have page : pageSize.toNat = 4096 := rfl
  rw [UInt64.le_iff_toNat_le, bound, allocSize]
  split
  · omega
  · rw [toNat_pages small]
    omega

/-- The order for a number of bytes can be counted in bytes unless these are more than half of the
address space. -/
theorem getOrder_lt_iff (size : UInt64) : getOrder size < 52 ↔ size.toNat ≤ 2 ^ 63 := by
  have bound : (52 : UInt32).toNat = 52 := rfl
  have order := getOrder_le_iff size 51
  rw [UInt32.lt_iff_toNat_lt, bound]
  omega

/-- The pages of the order for a number of bytes cover them. -/
theorem allocSize_getOrder {size : UInt64} (small : size.toNat ≤ 2 ^ 63) :
    size.toNat ≤ (allocSize (pageSize <<< (getOrder size).toUInt64)).toNat := by
  have covers := getOrder_covers size
  have exact_ := toNat_pages_of_lt ((getOrder_lt_iff size).mpr small)
  have some_ : pageSize <<< (getOrder size).toUInt64 ≠ 0 := by
    intro none
    rw [none, UInt64.toNat_zero] at exact_
    have power := Nat.two_pow_pos (getOrder size).toNat
    omega
  rw [allocSize, if_neg some_, exact_]
  exact covers

end Sizes

section Asked

variable {request : Request Pool} {object : Bool} {pool : Option Pool} {size : UInt64}

/-- A size for which `get_order` is called is an order below 52. -/
theorem atLeastOne_le {size : UInt64} (small : size.toNat < 2 ^ 32) :
    (atLeastOne size).toNat ≤ 2 ^ 32 ∧ size.toNat ≤ (atLeastOne size).toNat := by
  unfold atLeastOne
  split
  · exact ⟨Nat.le_of_lt small, Nat.le_refl _⟩
  · next none =>
    rw [not_not.mp none]
    exact ⟨by decide, by decide⟩

/-- The order of a size that is an `unsigned int`, or that of one byte, can be counted in bytes. -/
theorem getOrder_atLeastOne_lt {size : UInt64} (small : size.toNat < 2 ^ 32) :
    getOrder (atLeastOne size) < 52 :=
  (getOrder_lt_iff _).mpr (Nat.le_trans (atLeastOne_le small).1 (by decide))

/-- The pages for a size that is an `unsigned int`, or that of one byte, cover it and can be asked
for. -/
theorem allocSize_atLeastOne {size : UInt64} (small : size.toNat < 2 ^ 32) :
    allocSize (pageSize <<< (getOrder (atLeastOne size)).toUInt64) ≤ sizeMax - sizeofPage ∧
      size.toNat ≤ (allocSize (pageSize <<< (getOrder (atLeastOne size)).toUInt64)).toNat := by
  obtain ⟨bound, least⟩ := atLeastOne_le small
  have order := UInt32.lt_iff_toNat_lt.mp (getOrder_atLeastOne_lt small)
  have below : getOrder (atLeastOne size) < 64 :=
    UInt32.lt_iff_toNat_lt.mpr (Nat.lt_trans order (by decide))
  have covers := allocSize_getOrder (Nat.le_trans bound (by decide))
  exact ⟨allocSize_pages below, Nat.le_trans least covers⟩

omit [DecidableEq Pool] in
/-- The size that a request asks for passes the check of `lcompat_page_alloc` and covers what is
requested. -/
theorem asks_spec (asks : request.asks object = some (pool, size)) :
    allocSize size ≤ sizeMax - sizeofPage ∧
      (request.Counted → request.size ≤ (allocSize size).toNat) := by
  cases request with
  | devAllocPages order =>
    obtain ⟨small, same⟩ := Option.ite_none_right_eq_some.mp asks
    obtain ⟨rfl, rfl⟩ := Prod.mk.inj (Option.some.inj same)
    refine ⟨allocSize_pages small, fun counted => ?_⟩
    have pages := toNat_pages_of_lt (counted small)
    have some_ : pageSize <<< order.toUInt64 ≠ 0 := by
      intro none
      rw [none, UInt64.toNat_zero] at pages
      have power := Nat.two_pow_pos order.toNat
      omega
    rw [allocSize, if_neg some_, pages]
    exact Nat.le_refl _
  | allocFrag pool' count =>
    obtain ⟨rfl, rfl⟩ := Prod.mk.inj (Option.some.inj asks)
    have bound : (sizeMax - sizeofPage).toNat = 2 ^ 64 - 57 := by decide +kernel
    have most := count.toNat_lt
    have page : pageSize.toNat = 4096 := rfl
    rw [allocSize_frag, UInt64.le_iff_toNat_le, bound]
    split
    · rw [UInt32.toNat_toUInt64]
      exact ⟨by omega, fun _ => Nat.le_refl _⟩
    · next none =>
      rw [Request.size, not_not.mp none]
      exact ⟨by omega, fun _ => Nat.zero_le _⟩
  | allocSkb count =>
    obtain ⟨small, same⟩ := Option.ite_none_right_eq_some.mp asks
    obtain ⟨rfl, rfl⟩ := Prod.mk.inj (Option.some.inj same)
    have most := UInt64.le_iff_toNat_le.mp
      (of_decide_eq_true ((Bool.and_eq_true_iff.mp small).2))
    have bound : (0xffffffff : UInt64).toNat = 2 ^ 32 - 1 := by decide +kernel
    obtain ⟨fits, covers⟩ := @allocSize_atLeastOne count (by omega)
    exact ⟨fits, fun _ => covers⟩
  | cowHead headroom skb =>
    obtain ⟨-, same⟩ := Option.ite_none_right_eq_some.mp asks
    obtain ⟨rfl, rfl⟩ := Prod.mk.inj (Option.some.inj same)
    have count := UInt32.toNat_toUInt64 (cowSize headroom skb)
    obtain ⟨fits, covers⟩ := @allocSize_atLeastOne (cowSize headroom skb).toUInt64
      (by rw [count]; exact UInt32.toNat_lt _)
    rw [count] at covers
    exact ⟨fits, fun _ => covers⟩
  | linearize skb =>
    obtain ⟨-, same⟩ := Option.ite_none_right_eq_some.mp asks
    obtain ⟨rfl, rfl⟩ := Prod.mk.inj (Option.some.inj same)
    have count := UInt32.toNat_toUInt64 (linearSize skb)
    obtain ⟨fits, covers⟩ := @allocSize_atLeastOne (linearSize skb).toUInt64
      (by rw [count]; exact UInt32.toNat_lt _)
    rw [count] at covers
    exact ⟨fits, fun _ => covers⟩

end Asked

section Pages

variable {s : Pages Nat Pool} {pool : Option Pool} {size frames : UInt64} {page : Nat}

omit [DecidableEq Pool] in
/-- `lcompat_page_alloc` returns a page, whatever the address of its frames is. -/
theorem lcompatPageAlloc_returns (written : s.links.Written none)
    (fits : allocSize size ≤ sizeMax - sizeofPage) (pool : Option Pool) (frames : UInt64)
    (page : Nat) :
    ∃ s', lcompatPageAlloc pool size (some page) frames s = some (s', some page) := by
  obtain ⟨links, added⟩ :=
    Links.exists_listAddTail (written.initListHead (some page)) (some page)
  rw [lcompatPageAlloc]
  simp only [gt_iff_lt, UInt64.not_lt.mpr fits, if_false, added, Option.map_some]
  exact ⟨_, rfl⟩

omit [DecidableEq Pool] in
/-- A page that `lcompat_page_alloc` returns has the address of the frames and the size that is
asked for. -/
theorem lcompatPageAlloc_page {memory : Option Nat} {s' : Pages Nat Pool}
    (allocated : lcompatPageAlloc pool size memory frames s = some (s', some page)) :
    s'.page page = some ⟨frames, allocSize size, pool, frames, 1⟩ := by
  unfold lcompatPageAlloc at allocated
  dsimp only at allocated
  split at allocated
  · simp at allocated
  · split at allocated
    · simp at allocated
    · next page' =>
      obtain ⟨links, -, same⟩ := Option.map_eq_some_iff.mp allocated
      obtain ⟨rfl, here⟩ := Prod.mk.inj same
      obtain rfl := Option.some.inj here
      exact Function.update_self ..

end Pages

section Failures

variable {s : Pages Nat Pool} {r : Returns} {address : Nat → Nat} {memory : Memory}

omit [DecidableEq Pool] in
/-- Without memory for a `struct page` no page is returned, and the registry stays as it is. -/
theorem lcompatPageAlloc_none (pool : Option Pool) (size frames : UInt64) (s : Pages Nat Pool) :
    lcompatPageAlloc pool size none frames s = some (s, none) := by
  rw [lcompatPageAlloc]
  split <;> rfl

omit [DecidableEq Pool] in
/-- Without memory for a `struct page` no order of pages is returned. -/
theorem devPages_none (none : r.memory = none) (order : UInt32) : devPages r s order = .none := by
  rw [devPages, devAllocPages, none]
  split
  · rfl
  · rw [lcompatPageAlloc_none]
    rfl

/-- The number of bytes for which `get_order` is called, from an `unsigned int`. -/
theorem atLeastOne_toUInt64 (size : UInt32) :
    (if size ≠ 0 then size.toUInt64 else 1) = atLeastOne size.toUInt64 := by
  rw [atLeastOne]
  by_cases none : size = 0
  · rw [none]
    rfl
  · have some_ : size.toUInt64 ≠ 0 := by
      intro zero
      have count := UInt32.toNat_toUInt64 size
      rw [zero, UInt64.toNat_zero] at count
      exact none (UInt32.toNat_inj.mp count.symm)
    rw [if_pos none, if_pos some_]

omit [DecidableEq Pool] in
/-- What `skb_cow_head` does where it asks for pages. -/
theorem skbCowHead_asked {alloc : PageAlloc} {headroom : UInt32} {skb : Buffer} {object : Bool}
    {call : Option Pool × UInt64} (asks : (Request.cowHead headroom skb).asks object = some call) :
    match alloc (getOrder (atLeastOne (cowSize headroom skb).toUInt64)) with
    | none => skbCowHead alloc headroom skb memory = some ⟨-ENOMEM, skb, memory, []⟩
    | some _ => ∀ outcome, skbCowHead alloc headroom skb memory = some outcome →
      outcome.result = 0 := by
  obtain ⟨checks, -⟩ := Option.ite_none_right_eq_some.mp asks
  simp only [Bool.and_eq_true, decide_eq_true_eq] at checks
  obtain ⟨⟨⟨valid, before⟩, front⟩, behind⟩ := checks
  have counts : ¬(headroom > 0xffffffff - skb.linearLen ||
      headroom + skb.linearLen > 0xffffffff - (skb.limit - skb.tail)) = true := by
    simp only [Bool.or_eq_true, decide_eq_true_eq, not_or]
    exact ⟨UInt32.not_lt.mpr front, UInt32.not_lt.mpr behind⟩
  rw [← atLeastOne_toUInt64]
  simp only [skbCowHead, valid, Bool.not_true, Bool.false_eq_true, if_false, ge_iff_le,
    UInt32.not_le.mpr before, counts]
  split
  · next none =>
    rw [cowSize] at none
    rw [none]
  · next found =>
    rw [cowSize] at found
    rw [found]
    intro outcome ran
    obtain ⟨-, -, rfl⟩ := Option.map_eq_some_iff.mp ran
    rfl

omit [DecidableEq Pool] in
/-- `skb_linearize` fails where it asks for pages and gets none. -/
theorem skbLinearize_asked {alloc : PageAlloc} {skb : Buffer} {object : Bool}
    {call : Option Pool × UInt64} (asks : (Request.linearize skb).asks object = some call)
    (none : alloc (getOrder (atLeastOne (linearSize skb).toUInt64)) = .none) :
    skbLinearize alloc address skb memory = some ⟨-ENOMEM, skb, memory, []⟩ := by
  obtain ⟨checks, -⟩ := Option.ite_none_right_eq_some.mp asks
  simp only [Bool.and_eq_true, decide_eq_true_eq] at checks
  obtain ⟨⟨valid, paged⟩, counts⟩ := checks
  rw [← atLeastOne_toUInt64, linearSize] at none
  simp only [skbLinearize, valid, Bool.not_true, Bool.false_eq_true, if_false, paged, gt_iff_lt,
    UInt32.not_lt.mpr counts, none]

/-- A request that finds no memory for a `struct page` fails as it should. -/
theorem refused_of_noMemory {request : Request Pool}
    (has : ∀ pool size, request = .allocFrag pool size → HasPool s pool)
    (asks : (request.asks r.object).isSome = true) (none : r.memory = none) :
    Refused request r address memory s := by
  obtain ⟨call, asks⟩ := Option.isSome_iff_exists.mp asks
  cases request with
  | devAllocPages order =>
    obtain ⟨small, -⟩ := Option.ite_none_right_eq_some.mp asks
    have ran : Request.run r address memory s (.devAllocPages order) =
        some ⟨.page .none, [], s⟩ := by
      simp only [Request.run, PagePool.devAllocPages, ge_iff_le, UInt32.not_le.mpr small, if_false,
        none, lcompatPageAlloc_none, Option.map_some]
    exact ⟨_, ran, rfl, rfl, rfl, rfl, rfl, rfl⟩
  | allocFrag pool size =>
    have counted : ∃ t, countIn pool
        (fun stats => { stats with allocEmpty := stats.allocEmpty + 1 }) s = some t ∧
          t.links = s.links ∧ t.page = s.page ∧ t.allocated = s.allocated ∧ t.freed = s.freed := by
      cases pool with
      | none => exact ⟨s, rfl, rfl, rfl, rfl, rfl⟩
      | some given =>
        obtain ⟨stats, here⟩ := Option.isSome_iff_exists.mp (has _ _ rfl given rfl)
        exact ⟨_, congrArg (Option.map _) here, rfl, rfl, rfl, rfl⟩
    obtain ⟨t, went, same⟩ := counted
    have ran : Request.run r address memory s (.allocFrag pool size) =
        some ⟨.page .none, [], t⟩ := by
      simp only [Request.run, pagePoolAllocFrag, none, lcompatPageAlloc_none, Option.bind_some,
        went, Option.map_some, Option.map_none]
    exact ⟨_, ran, rfl, rfl, same⟩
  | allocSkb size =>
    obtain ⟨checks, -⟩ := Option.ite_none_right_eq_some.mp asks
    simp only [Bool.and_eq_true, decide_eq_true_eq] at checks
    have ran : Request.run r address memory s (.allocSkb size) =
        some ⟨.buffer .none, [.allocSkb, .freeSkb], s⟩ := by
      simp only [Request.run, Paged.allocSkb, checks.1, Bool.not_true, Bool.false_eq_true, if_false,
        gt_iff_lt, UInt64.not_lt.mpr checks.2, devPages_none none]
      rfl
    exact ⟨_, ran, rfl, rfl, rfl, rfl, rfl, rfl⟩
  | cowHead headroom skb =>
    have asked := @skbCowHead_asked _ memory (devPages r s) _ _ _ _ asks
    rw [devPages_none none] at asked
    have ran : Request.run r address memory s (.cowHead headroom skb) =
        some ⟨.code (-ENOMEM) skb memory, [], s⟩ := by
      rw [Request.run, asked]
      rfl
    exact ⟨_, ran, ⟨_, by decide, rfl⟩, rfl, rfl, rfl, rfl, rfl⟩
  | linearize skb =>
    have asked : skbLinearize (devPages r s) address skb memory =
        some ⟨-ENOMEM, skb, memory, []⟩ := skbLinearize_asked asks (devPages_none none _)
    have ran : Request.run r address memory s (.linearize skb) =
        some ⟨.code (-ENOMEM) skb memory, [], s⟩ := by
      rw [Request.run, asked]
      rfl
    exact ⟨_, ran, ⟨_, by decide, rfl⟩, rfl, rfl, rfl, rfl, rfl⟩

omit [DecidableEq Pool] in
/-- Where there is memory for a `struct page`, every order of pages is returned. -/
theorem devPages_some {page : Nat} (written : s.links.Written none)
    (given : r.memory = some page) {order : UInt32} (small : order < 64) :
    ∃ place, devPages r s order = some (page, place) := by
  obtain ⟨s', returns⟩ :=
    lcompatPageAlloc_returns written (allocSize_pages small) none r.frames page
  exact ⟨pageAddress s' page, by
    rw [devPages, devAllocPages, if_neg (UInt32.not_le.mpr small), given, returns]
    rfl⟩

/-- A request that comes to `alloc_frames_bytes` does not fail, whatever that returns, unless it
copies fragments. -/
theorem not_refused_of_reaches {request : Request Pool} (written : s.links.Written none)
    (reaches : request.ReachesFrames r) (other : ∀ skb, request ≠ .linearize skb) :
    ¬Refused request r address memory s := by
  rintro ⟨answer, ran, refusal, -⟩
  obtain ⟨⟨⟨pool, size⟩, asks⟩, ⟨page, given⟩⟩ :=
    reaches.imp Option.isSome_iff_exists.mp Option.isSome_iff_exists.mp
  obtain ⟨fits, -⟩ := asks_spec asks
  cases request with
  | devAllocPages order =>
    obtain ⟨small, same⟩ := Option.ite_none_right_eq_some.mp asks
    obtain ⟨rfl, rfl⟩ := Prod.mk.inj (Option.some.inj same)
    obtain ⟨s', returns⟩ := lcompatPageAlloc_returns written fits none r.frames page
    simp only [Request.run, PagePool.devAllocPages, ge_iff_le, UInt32.not_le.mpr small, if_false,
      given, returns, Option.map_some, Option.some.injEq] at ran
    obtain rfl := ran
    cases refusal
  | allocFrag pool' count =>
    obtain ⟨rfl, rfl⟩ := Prod.mk.inj (Option.some.inj asks)
    obtain ⟨s', returns⟩ := lcompatPageAlloc_returns written fits pool' r.frames page
    simp only [Request.run, pagePoolAllocFrag, given, returns, Option.bind_some,
      Option.map_map] at ran
    obtain ⟨t, -, rfl⟩ := Option.map_eq_some_iff.mp ran
    cases refusal
  | allocSkb count =>
    obtain ⟨checks, -⟩ := Option.ite_none_right_eq_some.mp asks
    simp only [Bool.and_eq_true, decide_eq_true_eq] at checks
    have most := UInt64.le_iff_toNat_le.mp checks.2
    have bound : (0xffffffff : UInt64).toNat = 2 ^ 32 - 1 := by decide +kernel
    have order := UInt32.lt_iff_toNat_lt.mp
      (@getOrder_atLeastOne_lt count (by omega))
    obtain ⟨place, found⟩ := devPages_some written given
      (UInt32.lt_iff_toNat_lt.mpr (Nat.lt_trans order (by decide)))
    rw [atLeastOne] at found
    simp only [Request.run, Paged.allocSkb, checks.1, Bool.not_true, Bool.false_eq_true, if_false,
      gt_iff_lt, UInt64.not_lt.mpr checks.2, found] at ran
    obtain ⟨t, -, rfl⟩ := Option.map_eq_some_iff.mp ran
    cases refusal
  | cowHead headroom skb =>
    have count := UInt32.toNat_toUInt64 (cowSize headroom skb)
    have order := UInt32.lt_iff_toNat_lt.mp
      (@getOrder_atLeastOne_lt (cowSize headroom skb).toUInt64
        (by rw [count]; exact UInt32.toNat_lt _))
    obtain ⟨place, found⟩ := devPages_some written given
      (UInt32.lt_iff_toNat_lt.mpr (Nat.lt_trans order (by decide)))
    have asked := @skbCowHead_asked _ memory (devPages r s) _ _ _ _ asks
    rw [found] at asked
    obtain ⟨outcome, went, answered⟩ := Option.bind_eq_some_iff.mp ran
    obtain ⟨pages, -, rfl⟩ := Option.map_eq_some_iff.mp answered
    obtain ⟨result, negative, same⟩ := refusal
    rw [Reply.code.injEq, asked outcome went] at same
    omega
  | linearize skb => exact other skb rfl

end Failures

/-- A request does what it should with what `alloc_frames_bytes` returns exactly where it does not
come to a `NULL`, and its pages are fewer than `2 ^ 52`. -/
theorem framesHandled_iff {s : Pages Nat Pool} (written : s.links.Written none)
    (request : Request Pool) (r : Returns) (address : Nat → Nat) (memory : Memory) :
    FramesHandled request r address memory s ↔
      (request.ReachesFrames r → r.frames ≠ 0 ∧ request.Counted) := by
  constructor
  · rintro handled ⟨asked, found⟩
    obtain ⟨⟨pool, size⟩, asks⟩ := Option.isSome_iff_exists.mp asked
    obtain ⟨page, given⟩ := Option.isSome_iff_exists.mp found
    obtain ⟨fits, -⟩ := asks_spec asks
    obtain ⟨s', returns⟩ := lcompatPageAlloc_returns written fits pool r.frames page
    have here := lcompatPageAlloc_page returns
    have usable := handled.usable pool size asks s' page
    rw [given] at usable
    obtain ⟨page', there, placed, covers⟩ := usable returns
    obtain rfl := Option.some.inj (here.symm.trans there)
    refine ⟨placed, ?_⟩
    cases request with
    | devAllocPages order =>
      intro small
      by_contra large
      obtain ⟨-, same⟩ := Option.ite_none_right_eq_some.mp asks
      have none := pages_of_le small (UInt32.not_lt.mp large)
      obtain ⟨rfl, rfl⟩ := Prod.mk.inj (Option.some.inj same)
      have one : (allocSize (pageSize <<< order.toUInt64)).toNat = 4096 := by
        rw [none]
        rfl
      have least : 52 ≤ order.toNat := UInt32.le_iff_toNat_le.mp (UInt32.not_lt.mp large)
      have power : 2 ^ 52 ≤ 2 ^ order.toNat := Nat.pow_le_pow_right (by decide) least
      have bytes : 4096 * 2 ^ order.toNat ≤ 4096 := Nat.le_trans covers (Nat.le_of_eq one)
      omega
    | allocFrag pool count => trivial
    | allocSkb count => trivial
    | cowHead headroom skb => trivial
    | linearize skb => trivial
  · intro condition
    constructor
    · intro reaches none
      exact absurd none (condition reaches).1
    · intro pool size asks s' page allocated
      refine ⟨_, lcompatPageAlloc_page allocated, ?_⟩
      have found : r.memory.isSome = true := by
        rcases given : r.memory with _ | given'
        · rw [given, lcompatPageAlloc] at allocated
          split at allocated <;> simp at allocated
        · rfl
      have reaches : request.ReachesFrames r := ⟨by rw [asks]; rfl, found⟩
      obtain ⟨placed, counted⟩ := condition reaches
      exact ⟨placed, (asks_spec asks).2 counted⟩

/-- A page of a pool with frames. -/
theorem framesHandled_frag :
    FramesHandled (.allocFrag none 100 : Request Nat) ⟨true, some 0, 4096⟩ (fun _ => 0)
      oneByteMemory nothing.1 :=
  (framesHandled_iff ⟨rfl, rfl⟩ _ _ _ _).mpr fun _ => ⟨by decide, trivial⟩

/-- Without frames, `alloc_skb` returns a buffer at `NULL`. -/
theorem allocSkb_noFrames : ¬∀ (s : Pages Nat Nat), s.links.Written none →
    ∀ (request : Request Nat) (r : Returns) (address : Nat → Nat) (memory : Memory),
      FramesHandled request r address memory s := by
  intro always
  have written : nothing.1.links.Written none := ⟨rfl, rfl⟩
  have reaches : (Request.allocSkb 1 : Request Nat).ReachesFrames ⟨true, some 0, 0⟩ :=
    ⟨by decide, rfl⟩
  have handled := always nothing.1 written (.allocSkb 1) ⟨true, some 0, 0⟩ (fun _ => 0)
    oneByteMemory
  refine not_refused_of_reaches written reaches ?_ (handled.refused reaches rfl)
  intro skb same
  cases same

end Lcompat.Net.Paged

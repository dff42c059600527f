import Lcompat.Net.Frames

/-!
# Orders of pages

`get_order` makes an order of a number of bytes, and `__dev_alloc_pages` makes a number of bytes of
an order. The order is exact for every number of bytes. The bytes of an order from 52 on are more
than a `size_t` holds: what is left of them is none, for which `lcompat_page_alloc` takes one page.
-/

namespace Lcompat.Net.Paged

open Lcompat.Logic PagePool

variable {Pool : Type}

/-- What the order of a number of bytes and the page for an order should be. -/
structure OrderExact (size : UInt64) (order : UInt32) (found : PagePool.Page Pool) : Prop where
  /-- The pages of the order that `get_order` returns cover the bytes. -/
  covers : size.toNat ≤ 4096 * 2 ^ (getOrder size).toNat
  /-- Those of no smaller order do. -/
  least : ∀ smaller, size.toNat ≤ 4096 * 2 ^ smaller → (getOrder size).toNat ≤ smaller
  /-- The page for an order has as many bytes as the order stands for. -/
  sized : found.size.toNat = 4096 * 2 ^ order.toNat
  /-- The page for the order of the bytes is not smaller than these. -/
  enough : order = getOrder size → size.toNat ≤ found.size.toNat

/-- A page that `__dev_alloc_pages` returns has the size that its order comes to, and that is one
page for an order without bytes. -/
theorem devAllocPages_size {order : UInt32} {memory : Option Nat} {frames : UInt64}
    {s s' : Pages Nat Pool} {page : Nat} {found : PagePool.Page Pool}
    (returned : devAllocPages order memory frames s = some (s', some page))
    (here : s'.page page = some found) :
    order < 64 ∧ found.size = allocSize (pageSize <<< order.toUInt64) := by
  rw [devAllocPages] at returned
  split at returned
  · simp at returned
  · next small =>
    have made := lcompatPageAlloc_page returned
    rw [here] at made
    obtain rfl := Option.some.inj made
    exact ⟨UInt32.not_le.mp small, rfl⟩

/-- An order and the page for it are exact if and only if the order is below 52. -/
theorem orderExact_iff {size : UInt64} {order : UInt32} {memory : Option Nat} {frames : UInt64}
    {s s' : Pages Nat Pool} {page : Nat} {found : PagePool.Page Pool}
    (returned : devAllocPages order memory frames s = some (s', some page))
    (here : s'.page page = some found) : OrderExact size order found ↔ order < 52 := by
  obtain ⟨small, bytes⟩ := devAllocPages_size returned here
  constructor
  · intro exact_
    by_contra large
    have least : 52 ≤ order.toNat := UInt32.le_iff_toNat_le.mp (UInt32.not_lt.mp large)
    have power : 2 ^ 52 ≤ 2 ^ order.toNat := Nat.pow_le_pow_right (by decide) least
    have one : found.size.toNat = 4096 := by
      rw [bytes, pages_of_le small (UInt32.not_lt.mp large)]
      rfl
    have sized := exact_.sized
    omega
  · intro below
    have sized : found.size.toNat = 4096 * 2 ^ order.toNat := by
      have pages := toNat_pages_of_lt below
      have some_ : pageSize <<< order.toUInt64 ≠ 0 := by
        intro none
        have power := Nat.two_pow_pos order.toNat
        rw [none, UInt64.toNat_zero] at pages
        omega
      rw [bytes, allocSize, if_neg some_, pages]
    refine ⟨getOrder_covers size, fun smaller => (getOrder_le_iff size smaller).mpr, sized, ?_⟩
    rintro rfl
    rw [sized]
    exact getOrder_covers size

/-- Two pages for one byte more than a page. -/
theorem orderExact_twoPages : ∃ (s' : Pages Nat Nat) (found : PagePool.Page Nat),
    devAllocPages 1 (some 0) 4096 nothing.1 = some (s', some 0) ∧ s'.page 0 = some found ∧
      OrderExact 4097 1 found := by
  have made : ∃ (s' : Pages Nat Nat) (found : PagePool.Page Nat),
      devAllocPages 1 (some 0) 4096 nothing.1 = some (s', some 0) ∧ s'.page 0 = some found :=
    ⟨_, _, rfl, rfl⟩
  obtain ⟨s', found, returned, here⟩ := made
  exact ⟨s', found, returned, here, (orderExact_iff returned here).mpr (by decide)⟩

/-- One page for one byte more than half of the address space. -/
theorem order_not_exact : ¬∀ (size : UInt64) (order : UInt32) (memory : Option Nat)
    (frames : UInt64) (s s' : Pages Nat Nat) (page : Nat) (found : PagePool.Page Nat),
    devAllocPages order memory frames s = some (s', some page) → s'.page page = some found →
      OrderExact size order found := by
  intro always
  have exact_ := always (2 ^ 63 + 1) 52 (some 0) 4096 nothing.1 _ 0 _ rfl rfl
  exact absurd (exact_.enough (by decide +kernel)) (by decide +kernel)

end Lcompat.Net.Paged

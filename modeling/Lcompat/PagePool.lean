import Lcompat.List
import Lcompat.Logic.System

/-!
# Pages and page pools

`page_pool.c` keeps every `struct page` in one list, from its allocation until its last reference
is put. What the allocators return is part of a call: `kzalloc` memory that is not in use, or none,
and `alloc_frames_bytes` the address of frames. The counts are unsigned, so `2 ^ 32` references
count as none.
-/

namespace Lcompat.PagePool

open Lcompat.Logic

/-- `PAGE_SIZE`. -/
def pageSize : UInt64 := 4096

/-- `SIZE_MAX`. -/
def sizeMax : UInt64 := 0xffffffffffffffff

/-- The size of a `struct page`. -/
def sizeofPage : UInt64 := 56

/-- `struct page`, without its links. -/
structure Page (Pool : Type) where
  /-- `addr`. -/
  addr : UInt64
  /-- `size`. -/
  size : UInt64
  /-- `pp`. -/
  pp : Option Pool
  /-- `dma_addr`. -/
  dmaAddr : UInt64
  /-- `lcompat_refcnt`. -/
  lcompatRefcnt : UInt32

/-- The counters of `struct page_pool_stats` that are written. -/
structure PagePoolStats where
  /-- `alloc_slow`. -/
  allocSlow : UInt64
  /-- `alloc_empty`. -/
  allocEmpty : UInt64
  /-- `release_slow`. -/
  releaseSlow : UInt64

/-- The registry, the pages and the pools, with the frames that were allocated and freed. The links
of a page are those of its address, and the head of the registry has none. -/
structure Pages (Ptr Pool : Type) where
  /-- `lcompat_pages`, and `lcompat_node` of each page. -/
  links : Links (Option Ptr)
  /-- The pages in memory. -/
  page : Ptr → Option (Page Pool)
  /-- The pools in memory. -/
  pool : Pool → Option PagePoolStats
  /-- The frames that `alloc_frames_bytes` was called for. -/
  allocated : List (UInt64 × UInt64)
  /-- The frames that `free_frames_bytes` was called for. -/
  freed : List (UInt64 × UInt64)

variable {Ptr Pool : Type} [DecidableEq Ptr] [DecidableEq Pool]

/-- The frames of a page. -/
def Page.frames (page : Page Pool) : UInt64 × UInt64 :=
  (page.addr, page.size)

/-- The size that `lcompat_page_alloc` asks for. -/
def allocSize (size : UInt64) : UInt64 :=
  if size = 0 then pageSize else size

/-- `lcompat_page_alloc`, with what `kzalloc` and `alloc_frames_bytes` return. -/
def lcompatPageAlloc (pool : Option Pool) (size : UInt64) (memory : Option Ptr) (frames : UInt64)
    (s : Pages Ptr Pool) : Option (Pages Ptr Pool × Option Ptr) :=
  let size := allocSize size
  if size > sizeMax - sizeofPage then some (s, none)
  else match memory with
    | none => some (s, none)
    | some page =>
      ((s.links.initListHead (some page)).listAddTail (some page) none).map fun links =>
        ({ s with
            links
            page := Function.update s.page page (some ⟨frames, size, pool, frames, 1⟩)
            allocated := s.allocated ++ [(frames, size)] }, some page)

/-- `lcompat_page_free`. -/
def lcompatPageFree (page : Ptr) (s : Pages Ptr Pool) : Option (Pages Ptr Pool) :=
  (s.page page).bind fun freed =>
    let links :=
      if (s.links.next (some page)).isSome && (s.links.prev (some page)).isSome then
        s.links.listDelInit (some page)
      else some s.links
    links.map fun links =>
      { s with
        links
        page := Function.update s.page page none
        freed := s.freed ++ [(freed.addr, freed.size)] }

/-- The loop of `virt_to_head_page`, if it comes to an end in some turns. -/
def findPage (s : Pages Ptr Pool) (target : UInt64) : Nat → Option Ptr → Option (Option Ptr)
  | _, none => some none
  | 0, some _ => none
  | turns + 1, some page =>
    (s.page page).bind fun found =>
      let start := found.addr
      let end_ := start + found.size
      if target ≥ start && target < end_ then some (some page)
      else (s.links.next (some page)).bind fun next => findPage s target turns next

/-- `virt_to_head_page`, if the loop comes to an end in some turns. -/
def virtToHeadPage (turns : Nat) (addr : UInt64) (s : Pages Ptr Pool) : Option (Option Ptr) :=
  if addr = 0 then some none
  else (s.links.next none).bind fun first => findPage s addr turns first

/-- `get_page`. -/
def getPage (page : Ptr) (s : Pages Ptr Pool) : Option (Pages Ptr Pool) :=
  (s.page page).map fun found =>
    { s with
      page := Function.update s.page page
        (some { found with lcompatRefcnt := found.lcompatRefcnt + 1 }) }

/-- `put_page`. -/
def putPage (page : Ptr) (s : Pages Ptr Pool) : Option (Pages Ptr Pool) :=
  (s.page page).bind fun found =>
    let count := found.lcompatRefcnt - 1
    let s := { s with
      page := Function.update s.page page (some { found with lcompatRefcnt := count }) }
    if count = 0 then lcompatPageFree page s else some s

/-- `__dev_alloc_pages`. -/
def devAllocPages (order : UInt32) (memory : Option Ptr) (frames : UInt64)
    (s : Pages Ptr Pool) : Option (Pages Ptr Pool × Option Ptr) :=
  if order ≥ 64 then some (s, none)
  else lcompatPageAlloc none (pageSize <<< order.toUInt64) memory frames s

/-- `page_pool_create`, with what `kzalloc` returns. -/
def pagePoolCreate (memory : Option Pool) (s : Pages Ptr Pool) : Pages Ptr Pool :=
  match memory with
  | none => s
  | some pool => { s with pool := Function.update s.pool pool (some ⟨0, 0, 0⟩) }

/-- The loop of `page_pool_destroy`, if it comes to an end in some turns. -/
def forgetPool (pool : Pool) : Nat → Option Ptr → Pages Ptr Pool → Option (Pages Ptr Pool)
  | _, none, s => some s
  | 0, some _, _ => none
  | turns + 1, some page, s =>
    (s.page page).bind fun found =>
      let s := if found.pp = some pool then
          { s with page := Function.update s.page page (some { found with pp := none }) }
        else s
      (s.links.next (some page)).bind fun next => forgetPool pool turns next s

/-- `page_pool_destroy`, if the loop comes to an end in some turns. -/
def pagePoolDestroy (turns : Nat) (pool : Pool) (s : Pages Ptr Pool) :
    Option (Pages Ptr Pool) :=
  (s.links.next none).bind fun first => (forgetPool pool turns first s).map fun s =>
    { s with pool := Function.update s.pool pool none }

/-- A counter of a pool is written, if there is a pool. -/
def countIn (pool : Option Pool) (count : PagePoolStats → PagePoolStats) (s : Pages Ptr Pool) :
    Option (Pages Ptr Pool) :=
  match pool with
  | none => some s
  | some pool => (s.pool pool).map fun stats =>
    { s with pool := Function.update s.pool pool (some (count stats)) }

/-- `page_pool_alloc_frag`: the page, and what is stored at `offset`. -/
def pagePoolAllocFrag (pool : Option Pool) (size : UInt32) (memory : Option Ptr)
    (frames : UInt64) (s : Pages Ptr Pool) :
    Option (Pages Ptr Pool × Option (Ptr × UInt32)) :=
  let size := if size ≠ 0 then size.toUInt64 else pageSize
  (lcompatPageAlloc pool size memory frames s).bind fun result =>
    match result with
    | (s, none) =>
      (countIn pool (fun stats => { stats with allocEmpty := stats.allocEmpty + 1 }) s).map
        fun s => (s, none)
    | (s, some page) =>
      (countIn pool (fun stats => { stats with allocSlow := stats.allocSlow + 1 }) s).map
        fun s => (s, some (page, 0))

/-- `page_pool_put_full_page`. -/
def pagePoolPutFullPage (pool : Option Pool) (page : Ptr) (s : Pages Ptr Pool) :
    Option (Pages Ptr Pool) :=
  (countIn pool (fun stats => { stats with releaseSlow := stats.releaseSlow + 1 }) s).bind
    fun s => putPage page s

/-- A call. -/
inductive PageOp (Ptr Pool : Type) where
  /-- `__dev_alloc_pages`. -/
  | allocPages (order : UInt32) (memory : Option Ptr) (frames : UInt64)
  /-- `page_pool_alloc_frag`. -/
  | allocFrag (pool : Option Pool) (size : UInt32) (memory : Option Ptr) (frames : UInt64)
  /-- `get_page`. -/
  | get (page : Ptr)
  /-- `put_page`. -/
  | put (page : Ptr)
  /-- `page_pool_put_full_page`. -/
  | putFull (pool : Option Pool) (page : Ptr)
  /-- `page_pool_create`. -/
  | create (memory : Option Pool)
  /-- `page_pool_destroy`. -/
  | destroy (pool : Pool)

/-- Who holds references: the pages in the order of their allocation, and the number of references
of each one. -/
structure Holders (Ptr : Type) where
  /-- The pages that somebody holds. -/
  pages : List Ptr
  /-- The references of each page. -/
  held : Ptr → Nat

namespace Holders

/-- A page is allocated, if one is, with a reference. -/
def alloc (holders : Holders Ptr) : Option Ptr → Holders Ptr
  | none => holders
  | some page => ⟨holders.pages ++ [page], Function.update holders.held page 1⟩

/-- One more reference. -/
def get (holders : Holders Ptr) (page : Ptr) : Holders Ptr :=
  ⟨holders.pages, Function.update holders.held page (holders.held page + 1)⟩

/-- One reference less, and the page is gone with the last one. -/
def put (holders : Holders Ptr) (page : Ptr) : Holders Ptr :=
  ⟨if holders.held page = 1 then holders.pages.erase page else holders.pages,
    Function.update holders.held page (holders.held page - 1)⟩

end Holders

/-- What a call does. The loop may take a turn for each page that somebody holds. -/
def PageOp.run (s : Pages Ptr Pool × Holders Ptr) :
    PageOp Ptr Pool → Option (Pages Ptr Pool × Holders Ptr)
  | .allocPages order memory frames =>
    (devAllocPages order memory frames s.1).map fun result => (result.1, s.2.alloc result.2)
  | .allocFrag pool size memory frames =>
    (pagePoolAllocFrag pool size memory frames s.1).map fun result =>
      (result.1, s.2.alloc (result.2.map Prod.fst))
  | .get page => (getPage page s.1).map fun pages => (pages, s.2.get page)
  | .put page => (putPage page s.1).map fun pages => (pages, s.2.put page)
  | .putFull pool page =>
    (pagePoolPutFullPage pool page s.1).map fun pages => (pages, s.2.put page)
  | .create memory => some (pagePoolCreate memory s.1, s.2)
  | .destroy pool => (pagePoolDestroy s.2.pages.length pool s.1).map fun pages => (pages, s.2)

/-- The runs from an empty registry, beside those who hold references. -/
def pagePool (Ptr Pool : Type) [DecidableEq Ptr] [DecidableEq Pool] :
    System (Pages Ptr Pool × Holders Ptr) (PageOp Ptr Pool) where
  init s := s.1.links.next none = some none ∧ s.1.links.prev none = some none ∧
    s.1.page = (fun _ => none) ∧ s.1.pool = (fun _ => none) ∧
    s.1.allocated = [] ∧ s.1.freed = [] ∧ s.2 = ⟨[], fun _ => 0⟩
  step := PageOp.run

/-- The frames of two pages do not overlap. -/
def Apart (addr size addr' size' : UInt64) : Prop :=
  addr.toNat + size.toNat ≤ addr'.toNat ∨ addr'.toNat + size'.toNat ≤ addr.toNat

/-- The allocators return a page that is not in use and frames that are not `NULL`, do not wrap
around and do not overlap those of another page. -/
def Fits (s : Pages Ptr Pool) (memory : Option Ptr) (size frames : UInt64) : Prop :=
  ∀ page, memory = some page → s.page page = none ∧ frames ≠ 0 ∧
    frames.toNat + size.toNat < 2 ^ 64 ∧
    ∀ other found, s.page other = some found → Apart found.addr found.size frames size

/-- A pool that is given is in memory. -/
def HasPool (s : Pages Ptr Pool) (pool : Option Pool) : Prop :=
  ∀ given, pool = some given → (s.pool given).isSome

/-- The allocators do what they should, pools are used while they are there, and pages by those who
hold a reference. -/
def Legal (s : Pages Ptr Pool × Holders Ptr) : PageOp Ptr Pool → Prop
  | .allocPages order memory frames =>
    order < 64 → Fits s.1 memory (allocSize (pageSize <<< order.toUInt64)) frames
  | .allocFrag pool size memory frames => HasPool s.1 pool ∧
    Fits s.1 memory (if size ≠ 0 then size.toUInt64 else pageSize) frames
  | .get page | .put page => s.2.held page ≠ 0
  | .putFull pool page => HasPool s.1 pool ∧ s.2.held page ≠ 0
  | .create memory => ∀ pool, memory = some pool → s.1.pool pool = none
  | .destroy pool => (s.1.pool pool).isSome

/-- A page has less than `2 ^ 32` references. -/
def Few (s : Pages Ptr Pool × Holders Ptr) : PageOp Ptr Pool → Prop
  | .get page => s.2.held page + 1 < 2 ^ 32
  | .allocPages _ _ _ | .allocFrag _ _ _ _ | .put _ | .putFull _ _ | .create _ | .destroy _ => True

/-- The registry has the pages that somebody holds, and a count is the number of references. -/
structure Kept (s : Pages Ptr Pool) (holders : Holders Ptr) : Prop where
  /-- The registry has these pages, each once. -/
  circle : s.links.Circle none (holders.pages.map some)
  /-- These are the pages in memory. -/
  memory : ∀ page, (s.page page).isSome ↔ page ∈ holders.pages
  /-- These are the pages with references. -/
  held : ∀ page, page ∈ holders.pages ↔ holders.held page ≠ 0
  /-- The counts. -/
  count : ∀ page found, s.page page = some found →
    found.lcompatRefcnt.toNat = holders.held page
  /-- Frames are not `NULL` and do not wrap around. -/
  frames : ∀ page found, s.page page = some found →
    found.addr ≠ 0 ∧ found.addr.toNat + found.size.toNat < 2 ^ 64
  /-- Frames do not overlap. -/
  apart : ∀ page other found found', page ≠ other → s.page page = some found →
    s.page other = some found' → Apart found.addr found.size found'.addr found'.size
  /-- The pools of pages are in memory. -/
  pools : ∀ page found, s.page page = some found → HasPool s found.pp
  /-- The frames that were allocated are those that were freed and those of the pages. -/
  balance : s.allocated.Perm
    (s.freed ++ holders.pages.filterMap fun page => (s.page page).map Page.frames)

section Keeping

variable {s : Pages Ptr Pool} {holders : Holders Ptr}

omit [DecidableEq Ptr] [DecidableEq Pool] in
/-- The pages stay the same when only their counts and pools are written. -/
theorem Kept.rewrite (kept : Kept s holders) {page' : Ptr → Option (Page Pool)}
    {pool' : Pool → Option PagePoolStats} {held' : Ptr → Nat}
    (same : ∀ page, (page' page).map Page.frames = (s.page page).map Page.frames)
    (count : ∀ page found, page' page = some found → found.lcompatRefcnt.toNat = held' page)
    (held : ∀ page, holders.held page ≠ 0 ↔ held' page ≠ 0)
    (pools : ∀ page found, page' page = some found →
      ∀ given, found.pp = some given → (pool' given).isSome) :
    Kept { s with page := page', pool := pool' } ⟨holders.pages, held'⟩ := by
  have before : ∀ {page found'}, page' page = some found' →
      ∃ found, s.page page = some found ∧ found.addr = found'.addr ∧ found.size = found'.size := by
    intro page found' there
    have mapped := same page
    rw [there, Option.map_some, eq_comm, Option.map_eq_some_iff] at mapped
    obtain ⟨found, here, equal⟩ := mapped
    exact ⟨found, here, congrArg Prod.fst equal, congrArg Prod.snd equal⟩
  refine ⟨kept.circle, ?_, fun page => (kept.held page).trans (held page), count, ?_, ?_, pools, ?_⟩
  · intro page
    rw [← kept.memory page, ← Option.isSome_map, same, Option.isSome_map]
  · intro page found' there
    obtain ⟨found, here, addr, size⟩ := before there
    rw [← addr, ← size]
    exact kept.frames page found here
  · intro page other found found' different there there'
    obtain ⟨first, here, addr, size⟩ := before there
    obtain ⟨second, here', addr', size'⟩ := before there'
    rw [← addr, ← size, ← addr', ← size']
    exact kept.apart page other first second different here here'
  · have frames : (fun page => (page' page).map Page.frames) =
        fun page => (s.page page).map Page.frames := funext same
    show s.allocated.Perm (s.freed ++ holders.pages.filterMap fun page =>
      (page' page).map Page.frames)
    rw [frames]
    exact kept.balance

omit [DecidableEq Ptr] in
/-- Writing a counter of a pool keeps the pages. -/
theorem Kept.countIn (kept : Kept s holders) {pool : Option Pool} (has : HasPool s pool)
    (count : PagePoolStats → PagePoolStats) : ∃ s', countIn pool count s = some s' ∧
      Kept s' holders ∧ s'.page = s.page ∧ s'.freed = s.freed := by
  cases pool with
  | none => exact ⟨s, rfl, kept, rfl, rfl⟩
  | some pool =>
    obtain ⟨stats, found⟩ := Option.isSome_iff_exists.mp (has pool rfl)
    refine ⟨{ s with pool := Function.update s.pool pool (some (count stats)) }, ?_, ?_, rfl, rfl⟩
    · rw [PagePool.countIn, found, Option.map_some]
    · refine kept.rewrite (fun _ => rfl) kept.count (fun _ => Iff.rfl) ?_
      intro page found there given equal
      by_cases same : given = pool
      · rw [same, Function.update_self]
        rfl
      · rw [Function.update_of_ne same]
        exact kept.pools page found there given equal

omit [DecidableEq Pool] in
/-- `get_page` counts a reference, below `2 ^ 32`. -/
theorem Kept.getPage (kept : Kept s holders) {page : Ptr} (holds : holders.held page ≠ 0)
    (few : holders.held page + 1 < 2 ^ 32) : ∃ s', getPage page s = some s' ∧
      Kept s' (holders.get page) ∧ s'.freed = s.freed ∧
      ∀ other, (s'.page other).isSome ↔ (s.page other).isSome := by
  have there := (kept.memory page).mpr ((kept.held page).mpr holds)
  obtain ⟨found, here⟩ := Option.isSome_iff_exists.mp there
  have kept' : Kept { s with
      page := Function.update s.page page
        (some { found with lcompatRefcnt := found.lcompatRefcnt + 1 }) } (holders.get page) := by
    refine kept.rewrite ?_ ?_ ?_ ?_
    · intro other
      by_cases same : other = page
      · rw [same, Function.update_self, here]
        rfl
      · rw [Function.update_of_ne same]
    · intro other found' there'
      by_cases same : other = page
      · rw [same, Function.update_self, Option.some.injEq] at there'
        have one : (1 : UInt32).toNat = 1 := rfl
        rw [same, Function.update_self, ← there', UInt32.toNat_add, kept.count page found here, one]
        exact Nat.mod_eq_of_lt few
      · rw [Function.update_of_ne same] at there' ⊢
        exact kept.count other found' there'
    · intro other
      by_cases same : other = page
      · rw [same, Function.update_self]
        exact ⟨fun _ => Nat.succ_ne_zero _, fun _ => holds⟩
      · rw [Function.update_of_ne same]
    · intro other found' there' given equal
      by_cases same : other = page
      · rw [same, Function.update_self, Option.some.injEq] at there'
        rw [← there'] at equal
        exact kept.pools page found here given equal
      · rw [Function.update_of_ne same] at there'
        exact kept.pools other found' there' given equal
  refine ⟨_, by rw [PagePool.getPage, here, Option.map_some], kept', rfl, ?_⟩
  intro other
  rw [kept'.memory, kept.memory]
  rfl

omit [DecidableEq Pool] in
/-- `lcompat_page_alloc` appends a page to the registry, if it returns one. -/
theorem Kept.alloc (kept : Kept s holders) {pool : Option Pool} {size frames : UInt64}
    {memory : Option Ptr} (fits : Fits s memory (allocSize size) frames) (has : HasPool s pool) :
    ∃ s' result, lcompatPageAlloc pool size memory frames s = some (s', result) ∧
      Kept s' (holders.alloc result) ∧ s'.freed = s.freed ∧ s'.pool = s.pool ∧
      ∀ other, (s.page other).isSome → (s'.page other).isSome := by
  unfold lcompatPageAlloc
  by_cases large : allocSize size > sizeMax - sizeofPage
  · exact ⟨s, none, by simp only [large, if_true], kept, rfl, rfl, fun _ => id⟩
  cases memory with
  | none => exact ⟨s, none, by simp only [large, if_false], kept, rfl, rfl, fun _ => id⟩
  | some page =>
    obtain ⟨unused, notNull, whole, apart⟩ := fits page rfl
    have fresh : page ∉ holders.pages := by
      rw [← kept.memory, unused]
      exact Bool.false_ne_true
    have outside : some page ∉ none :: holders.pages.map some := by simp [fresh]
    obtain ⟨links, added, circle⟩ := (kept.circle.initListHead outside).listAddTail outside
    have elsewhere : ∀ other ∈ holders.pages, other ≠ page := fun other member same =>
      fresh (same ▸ member)
    simp only [large, if_false, added, Option.map_some]
    refine ⟨_, some page, rfl, ?_, rfl, rfl, ?_⟩
    · refine ⟨?_, ?_, ?_, ?_, ?_, ?_, ?_, ?_⟩
      · simpa [Holders.alloc] using circle
      · intro other
        by_cases same : other = page
        · simp [same, Holders.alloc]
        · simpa [same, Holders.alloc] using kept.memory other
      · intro other
        by_cases same : other = page
        · simp [same, Holders.alloc]
        · simpa [same, Holders.alloc] using kept.held other
      · intro other found there
        by_cases same : other = page
        · simp only [same, Function.update_self, Option.some.injEq] at there
          simp [same, Holders.alloc, ← there]
        · simp only [Function.update_of_ne same] at there
          simpa [same, Holders.alloc] using kept.count other found there
      · intro other found there
        by_cases same : other = page
        · simp only [same, Function.update_self, Option.some.injEq] at there
          rw [← there]
          exact ⟨notNull, whole⟩
        · simp only [Function.update_of_ne same] at there
          exact kept.frames other found there
      · intro one other found found' different there there'
        by_cases here : one = page
        · have notHere : other ≠ page := fun same => different (here.trans same.symm)
          simp only [here, Function.update_self, Option.some.injEq] at there
          simp only [Function.update_of_ne notHere] at there'
          rw [← there]
          exact (apart other found' there').symm
        · simp only [Function.update_of_ne here] at there
          by_cases here' : other = page
          · simp only [here', Function.update_self, Option.some.injEq] at there'
            rw [← there']
            exact apart one found there
          · simp only [Function.update_of_ne here'] at there'
            exact kept.apart one other found found' different there there'
      · intro other found there
        by_cases same : other = page
        · simp only [same, Function.update_self, Option.some.injEq] at there
          rw [← there]
          exact has
        · simp only [Function.update_of_ne same] at there
          exact kept.pools other found there
      · have old : (holders.pages.filterMap fun other =>
            (Function.update s.page page
              (some ⟨frames, allocSize size, pool, frames, 1⟩) other).map Page.frames) =
            holders.pages.filterMap fun other => (s.page other).map Page.frames := by
          apply List.filterMap_congr
          intro other member
          rw [Function.update_of_ne (elsewhere other member)]
        simp only [Holders.alloc, List.filterMap_append, old, List.filterMap_cons,
          Function.update_self, Option.map_some, List.filterMap_nil, Page.frames]
        rw [← List.append_assoc]
        exact kept.balance.append_right _
    · intro other there
      by_cases same : other = page
      · simp [same]
      · simpa [same] using there

omit [DecidableEq Ptr] [DecidableEq Pool] in
/-- The pages are listed once. -/
theorem Kept.nodup (kept : Kept s holders) : holders.pages.Nodup :=
  (List.nodup_cons.mp kept.circle.nodup).2.of_map some

omit [DecidableEq Pool] in
/-- A page that is freed leaves the registry. -/
theorem Kept.free (kept : Kept s holders) {page : Ptr} {found : Page Pool}
    (here : s.page page = some found) (last : holders.held page = 1) (count : UInt32) :
    ∃ s', lcompatPageFree page { s with
        page := Function.update s.page page (some { found with lcompatRefcnt := count }) } =
          some s' ∧
      Kept s' (holders.put page) ∧ s'.freed = s.freed ++ [found.frames] := by
  have member : page ∈ holders.pages := (kept.held page).mpr (by omega)
  have put : holders.put page =
      ⟨holders.pages.erase page, Function.update holders.held page 0⟩ := by
    rw [Holders.put, if_pos last, last]
  obtain ⟨links, removed, circle⟩ :=
    kept.circle.listDelInit (List.mem_map_of_mem member : some page ∈ holders.pages.map some)
  have written := Links.written_of_listDelInit removed
  have there : ∀ {other found'}, Function.update s.page page none other = some found' →
      other ≠ page ∧ s.page other = some found' := by
    intro other found' there
    by_cases same : other = page
    · rw [same, Function.update_self] at there
      exact nomatch there
    · rw [Function.update_of_ne same] at there
      exact ⟨same, there⟩
  simp only [lcompatPageFree, Function.update_self, Option.bind_some, written.1, written.2,
    Bool.and_self, if_true, removed, Option.map_some, Function.update_idem]
  refine ⟨_, rfl, ?_, rfl⟩
  rw [put]
  refine ⟨?_, ?_, ?_, ?_, ?_, ?_, ?_, ?_⟩
  · have instances : (Option.instBEq : BEq (Option Ptr)) = instBEqOfDecidableEq :=
      lawful_beq_subsingleton ..
    rw [List.map_erase (Option.some_injective Ptr), instances]
    exact circle
  · intro other
    by_cases same : other = page
    · simp [same, kept.nodup.not_mem_erase]
    · simp only [Function.update_of_ne same, List.mem_erase_of_ne same]
      exact kept.memory other
  · intro other
    by_cases same : other = page
    · simp [same, kept.nodup.not_mem_erase]
    · simp only [Function.update_of_ne same, List.mem_erase_of_ne same]
      exact kept.held other
  · intro other found' now
    obtain ⟨different, before⟩ := there now
    simp only [Function.update_of_ne different]
    exact kept.count other found' before
  · intro other found' now
    exact kept.frames other found' (there now).2
  · intro one other found₁ found₂ different now now'
    exact kept.apart one other found₁ found₂ different (there now).2 (there now').2
  · intro other found' now
    exact kept.pools other found' (there now).2
  · have left : ((holders.pages.erase page).filterMap fun other =>
          (Function.update s.page page none other).map Page.frames) =
        (holders.pages.erase page).filterMap fun other => (s.page other).map Page.frames := by
      apply List.filterMap_congr
      intro other remains
      have different : other ≠ page := fun same =>
        kept.nodup.not_mem_erase (same ▸ remains)
      rw [Function.update_of_ne different]
    have split : (holders.pages.filterMap fun other => (s.page other).map Page.frames).Perm
        (found.frames :: (holders.pages.erase page).filterMap fun other =>
          (s.page other).map Page.frames) := by
      have perm := (List.perm_cons_erase member).filterMap fun other =>
        (s.page other).map Page.frames
      rwa [List.filterMap_cons, here, Option.map_some] at perm
    simp only [left, List.append_assoc, List.singleton_append]
    exact kept.balance.trans (split.append_left s.freed)

omit [DecidableEq Pool] in
/-- `put_page` puts a reference, and frees the page with the last one. -/
theorem Kept.putPage (kept : Kept s holders) {page : Ptr} {found : Page Pool}
    (here : s.page page = some found) : ∃ s', putPage page s = some s' ∧
      Kept s' (holders.put page) ∧
      s'.freed = s.freed ++ if found.lcompatRefcnt = 1 then [found.frames] else [] := by
  have counts := kept.count page found here
  have holds : holders.held page ≠ 0 := by
    rw [← kept.held, ← kept.memory, here]
    rfl
  have one : (1 : UInt32).toNat = 1 := rfl
  have zero : (0 : UInt32).toNat = 0 := rfl
  have one_le : (1 : UInt32) ≤ found.lcompatRefcnt := by
    rw [UInt32.le_iff_toNat_le, one, counts]
    omega
  have less : (found.lcompatRefcnt - 1).toNat = holders.held page - 1 := by
    rw [UInt32.toNat_sub_of_le _ _ one_le, counts, one]
  by_cases last : found.lcompatRefcnt = 1
  · have held : holders.held page = 1 := by rw [← counts, last, one]
    obtain ⟨s', freed, kept', gone⟩ := kept.free here held (found.lcompatRefcnt - 1)
    have none_ : found.lcompatRefcnt - 1 = 0 := by rw [last]; rfl
    refine ⟨s', ?_, kept', by rw [gone, if_pos last]⟩
    rw [PagePool.putPage, here, Option.bind_some, if_pos none_]
    exact freed
  · have held : holders.held page ≠ 1 := by
      intro equal
      apply last
      apply UInt32.toNat_inj.mp
      rw [counts, equal, one]
    have some_ : found.lcompatRefcnt - 1 ≠ 0 := by
      intro equal
      rw [equal, zero] at less
      omega
    refine ⟨_, by rw [PagePool.putPage, here, Option.bind_some, if_neg some_], ?_,
      by rw [if_neg last, List.append_nil]⟩
    rw [Holders.put, if_neg held]
    refine kept.rewrite ?_ ?_ ?_ ?_
    · intro other
      by_cases same : other = page
      · rw [same, Function.update_self, here]
        rfl
      · rw [Function.update_of_ne same]
    · intro other found' there
      by_cases same : other = page
      · rw [same, Function.update_self, Option.some.injEq] at there
        rw [same, Function.update_self, ← there]
        exact less
      · rw [Function.update_of_ne same] at there ⊢
        exact kept.count other found' there
    · intro other
      by_cases same : other = page
      · rw [same, Function.update_self]
        omega
      · rw [Function.update_of_ne same]
    · intro other found' there given equal
      by_cases same : other = page
      · rw [same, Function.update_self, Option.some.injEq] at there
        rw [← there] at equal
        exact kept.pools page found here given equal
      · rw [Function.update_of_ne same] at there
        exact kept.pools other found' there given equal

end Keeping

section Loops

variable {s : Pages Ptr Pool} {holders : Holders Ptr}

/-- The frames of a page hold an address. -/
def holdsAddr (s : Pages Ptr Pool) (addr : UInt64) (page : Ptr) : Bool :=
  match s.page page with
  | none => false
  | some found => addr ≥ found.addr && addr < found.addr + found.size

omit [DecidableEq Ptr] [DecidableEq Pool] in
/-- The pointer after the head of a registry, or after a page in it. -/
theorem next_of_linked {node : Option Ptr} {pages : List Ptr}
    (linked : s.links.Linked (node :: (pages.map some ++ [none]))) :
    s.links.next node = some pages.head? ∧ s.links.Linked (pages.map some ++ [none]) := by
  cases pages with
  | nil => exact ⟨(List.isChain_cons_cons.mp linked).1.1, List.isChain_singleton none⟩
  | cons page rest =>
    have parts := List.isChain_cons_cons.mp linked
    exact ⟨parts.1.1, parts.2⟩

omit [DecidableEq Ptr] [DecidableEq Pool] in
/-- The loop of `virt_to_head_page` finds the first page that holds an address. -/
theorem findPage_eq {pages : List Ptr} (linked : s.links.Linked (pages.map some ++ [none]))
    (there : ∀ page ∈ pages, (s.page page).isSome) (addr : UInt64) :
    findPage s addr pages.length pages.head? = some (pages.find? (holdsAddr s addr)) := by
  induction pages with
  | nil => rfl
  | cons page rest ih =>
    obtain ⟨found, here⟩ := Option.isSome_iff_exists.mp (there page List.mem_cons_self)
    obtain ⟨next, linked'⟩ := next_of_linked linked
    rw [List.length_cons, List.head?_cons, findPage, here, Option.bind_some, List.find?_cons,
      holdsAddr, here]
    by_cases within : (decide (addr ≥ found.addr) &&
        decide (addr < found.addr + found.size)) = true
    · simp only [within, if_true]
    · rw [if_neg within, next, Option.bind_some,
        ih linked' fun other member => there other (List.mem_cons_of_mem page member)]
      simp only [Bool.not_eq_true] at within
      simp only [within]

/-- A page forgets a pool. -/
def Page.forget (pool : Pool) (page : Page Pool) : Page Pool :=
  if page.pp = some pool then { page with pp := none } else page

/-- The loop of `page_pool_destroy` makes the pages forget the pool. -/
theorem forgetPool_eq {pages : List Ptr} (linked : s.links.Linked (pages.map some ++ [none]))
    (there : ∀ page ∈ pages, (s.page page).isSome) (nodup : pages.Nodup) (pool : Pool) :
    forgetPool pool pages.length pages.head? s = some { s with
      page := fun page =>
        if page ∈ pages then (s.page page).map (Page.forget pool) else s.page page } := by
  induction pages generalizing s with
  | nil => simp [forgetPool]
  | cons page rest ih =>
    obtain ⟨found, here⟩ := Option.isSome_iff_exists.mp (there page List.mem_cons_self)
    obtain ⟨next, linked'⟩ := next_of_linked linked
    obtain ⟨notRest, nodup'⟩ := List.nodup_cons.mp nodup
    have turn : (if found.pp = some pool then
          { s with page := Function.update s.page page (some { found with pp := none }) }
        else s) =
        { s with page := Function.update s.page page (some (found.forget pool)) } := by
      by_cases same : found.pp = some pool
      · rw [if_pos same, Page.forget, if_pos same]
      · rw [if_neg same, Page.forget, if_neg same, ← here, Function.update_eq_self]
    rw [List.length_cons, List.head?_cons, forgetPool, here, Option.bind_some]
    simp only [turn, next, Option.bind_some]
    have there' : ∀ other ∈ rest,
        (Function.update s.page page (some (found.forget pool)) other).isSome := by
      intro other member
      by_cases same : other = page
      · rw [same, Function.update_self]
        rfl
      · rw [Function.update_of_ne same]
        exact there other (List.mem_cons_of_mem page member)
    refine (ih (s := { s with
      page := Function.update s.page page
        (some (found.forget pool)) }) linked' there' nodup').trans ?_
    congr 2
    funext other
    by_cases same : other = page
    · subst same
      simp [notRest, here]
    · simp [same]

/-- `page_pool_destroy` leaves no page with the pool. -/
theorem Kept.destroy (kept : Kept s holders) (pool : Pool) : ∃ s',
    pagePoolDestroy holders.pages.length pool s = some s' ∧ Kept s' holders ∧
      s'.freed = s.freed ∧ ∀ page found, s'.page page = some found → found.pp ≠ some pool := by
  obtain ⟨next, linked⟩ := next_of_linked kept.circle.linked
  have all : (fun page => if page ∈ holders.pages then (s.page page).map (Page.forget pool)
      else s.page page) = fun page => (s.page page).map (Page.forget pool) := by
    funext page
    by_cases member : page ∈ holders.pages
    · rw [if_pos member]
    · have missing : s.page page = none := by
        rw [← kept.memory, Option.not_isSome_iff_eq_none] at member
        exact member
      rw [if_neg member, missing, Option.map_none]
  have loop := forgetPool_eq linked (fun page => (kept.memory page).mpr) kept.nodup pool
  rw [all] at loop
  have forgotten : ∀ found : Page Pool, (found.forget pool).pp ≠ some pool := by
    intro found
    by_cases same : found.pp = some pool
    · simp [Page.forget, same]
    · rw [Page.forget, if_neg same]
      exact same
  have kept_ : ∀ found : Page Pool, (found.forget pool).frames = found.frames ∧
      (found.forget pool).lcompatRefcnt = found.lcompatRefcnt ∧
      ∀ given, (found.forget pool).pp = some given → found.pp = some given := by
    intro found
    by_cases same : found.pp = some pool
    · simp [Page.forget, Page.frames, same]
    · simp [Page.forget, same]
  refine ⟨{ s with
      page := fun page => (s.page page).map (Page.forget pool)
      pool := Function.update s.pool pool none }, ?_, ?_, rfl, ?_⟩
  · rw [pagePoolDestroy, next, Option.bind_some, loop, Option.map_some]
  · refine kept.rewrite ?_ ?_ (fun _ => Iff.rfl) ?_
    · intro page
      rw [Option.map_map]
      congr 1
      funext found
      exact (kept_ found).1
    · intro page found' there
      obtain ⟨found, here, rfl⟩ := Option.map_eq_some_iff.mp there
      rw [(kept_ found).2.1]
      exact kept.count page found here
    · intro page found' there given equal
      obtain ⟨found, here, rfl⟩ := Option.map_eq_some_iff.mp there
      have different : given ≠ pool := fun same => forgotten found (same ▸ equal)
      rw [Function.update_of_ne different]
      exact kept.pools page found here given ((kept_ found).2.2 given equal)
  · intro page found' there
    obtain ⟨found, -, rfl⟩ := Option.map_eq_some_iff.mp there
    exact forgotten found

/-- The frames of a page hold an address, without bounds on the numbers. -/
def Holds (s : Pages Ptr Pool) (addr : UInt64) (page : Ptr) : Prop :=
  ∃ found, s.page page = some found ∧ found.addr.toNat ≤ addr.toNat ∧
    addr.toNat < found.addr.toNat + found.size.toNat

omit [DecidableEq Ptr] [DecidableEq Pool] in
/-- The comparison of addresses does not wrap around. -/
theorem Kept.holdsAddr_iff (kept : Kept s holders) (addr : UInt64) (page : Ptr) :
    holdsAddr s addr page = true ↔ Holds s addr page := by
  unfold holdsAddr Holds
  cases here : s.page page with
  | none => simp
  | some found =>
    have whole := (kept.frames page found here).2
    have sum : (found.addr + found.size).toNat = found.addr.toNat + found.size.toNat := by
      rw [UInt64.toNat_add]
      exact Nat.mod_eq_of_lt whole
    simp only [ge_iff_le, Bool.and_eq_true, decide_eq_true_eq, UInt64.le_iff_toNat_le,
      UInt64.lt_iff_toNat_lt, sum, Option.some.injEq, exists_eq_left']

omit [DecidableEq Ptr] [DecidableEq Pool] in
/-- `virt_to_head_page` returns the page that holds an address. -/
theorem Kept.virtToHeadPage (kept : Kept s holders) (addr : UInt64) : ∃ result,
    virtToHeadPage holders.pages.length addr s = some result ∧
      ∀ page, result = some page ↔ Holds s addr page := by
  unfold PagePool.virtToHeadPage
  by_cases null : addr = 0
  · refine ⟨none, by rw [if_pos null], ?_⟩
    intro page
    simp only [reduceCtorEq, false_iff]
    rintro ⟨found, here, below, -⟩
    rw [null] at below
    apply (kept.frames page found here).1
    apply UInt64.toNat_inj.mp
    exact Nat.le_zero.mp below
  obtain ⟨next, linked⟩ := next_of_linked kept.circle.linked
  have loop := findPage_eq linked (fun page => (kept.memory page).mpr) addr
  refine ⟨_, by rw [if_neg null, next, Option.bind_some, loop], ?_⟩
  intro page
  constructor
  · intro found
    exact (kept.holdsAddr_iff addr page).mp (List.find?_some found)
  · intro holds
    have holdsPage := (kept.holdsAddr_iff addr page).mpr holds
    obtain ⟨found, here, low, high⟩ := holds
    have member : page ∈ holders.pages := (kept.memory page).mp (by rw [here]; rfl)
    have exists_ : (holders.pages.find? (holdsAddr s addr)).isSome :=
      List.find?_isSome.mpr ⟨page, member, holdsPage⟩
    obtain ⟨other, first⟩ := Option.isSome_iff_exists.mp exists_
    obtain ⟨found', here', low', high'⟩ :=
      (kept.holdsAddr_iff addr other).mp (List.find?_some first)
    rw [first, Option.some.injEq]
    by_contra different
    have apart := kept.apart other page found' found different here' here
    unfold Apart at apart
    omega

end Loops

/-- The page whose reference a call puts. -/
def PageOp.puts : PageOp Ptr Pool → Option Ptr
  | .put page | .putFull _ page => some page
  | .allocPages _ _ _ | .allocFrag _ _ _ _ | .get _ | .create _ | .destroy _ => none

/-- The frames that a call should free. -/
def PageOp.frees (s : Pages Ptr Pool) (op : PageOp Ptr Pool) : List (UInt64 × UInt64) :=
  match op.puts.bind s.page with
  | none => []
  | some found => if found.lcompatRefcnt = 1 then [found.frames] else []

section Runs

variable {s : Pages Ptr Pool × Holders Ptr} {op : PageOp Ptr Pool}

/-- `page_pool_alloc_frag` asks for the size it is given, or for a page. -/
theorem allocSize_frag (size : UInt32) :
    allocSize (if size ≠ 0 then size.toUInt64 else pageSize) =
      if size ≠ 0 then size.toUInt64 else pageSize := by
  by_cases given : size ≠ 0
  · have wide : size.toUInt64 ≠ 0 := by
      intro zero
      apply given
      apply UInt32.toNat_inj.mp
      have same := congrArg UInt64.toNat zero
      rwa [UInt32.toNat_toUInt64] at same
    rw [if_pos given, allocSize, if_neg wide]
  · rw [if_neg given]
    rfl

/-- A legal call that leaves few references keeps the registry, and frees what it should. -/
theorem Kept.step (kept : Kept s.1 s.2) (legal : Legal s op) (few : Few s op) : ∃ t,
    op.run s = some t ∧ Kept t.1 t.2 ∧ t.1.freed = s.1.freed ++ op.frees s.1 ∧
      ∀ page ∈ s.2.pages, page ∉ t.2.pages ↔ op.puts = some page ∧ s.2.held page = 1 := by
  have grows : ∀ result, ∀ page ∈ s.2.pages, page ∈ (s.2.alloc result).pages := by
    intro result page member
    cases result with
    | none => exact member
    | some _ => exact List.mem_append_left _ member
  have shrinks : ∀ put, ∀ page ∈ s.2.pages,
      page ∉ (s.2.put put).pages ↔ some put = some page ∧ s.2.held page = 1 := by
    intro put page member
    by_cases last : s.2.held put = 1
    · by_cases same : put = page
      · simp [Holders.put, ← same, last, kept.nodup.not_mem_erase]
      · simp [Holders.put, last, same, List.mem_erase_of_ne (Ne.symm same), member]
    · simp only [Holders.put, if_neg last, member, not_true, false_iff]
      rintro ⟨same, only⟩
      exact last (Option.some.inj same ▸ only)
  cases op with
  | allocPages order memory frames =>
    by_cases large : order ≥ 64
    · refine ⟨s, ?_, kept, (List.append_nil _).symm, ?_⟩
      · simp only [PageOp.run, devAllocPages, if_pos large, Option.map_some]
        rfl
      · intro page member
        simp [PageOp.puts, member]
    · have small : order < 64 := by simpa using large
      have has : HasPool s.1 none := fun _ absent => nomatch absent
      obtain ⟨s', result, allocated, kept', freed, -, -⟩ := kept.alloc (legal small) has
      refine ⟨(s', s.2.alloc result), ?_, kept', ?_, ?_⟩
      · simp only [PageOp.run, devAllocPages, if_neg large, allocated, Option.map_some]
      · rw [freed]
        exact (List.append_nil _).symm
      · intro page member
        simp [PageOp.puts, grows result page member]
  | allocFrag pool size memory frames =>
    obtain ⟨has, fits⟩ := legal
    rw [← allocSize_frag size] at fits
    obtain ⟨s₁, result, allocated, kept₁, freed, pools, -⟩ := kept.alloc fits has
    have has₁ : HasPool s₁ pool := by
      intro given equal
      rw [pools]
      exact has given equal
    cases result with
    | none =>
      obtain ⟨s', counted, kept', -, freed'⟩ := kept₁.countIn has₁
        fun stats => { stats with allocEmpty := stats.allocEmpty + 1 }
      refine ⟨(s', s.2), ?_, kept', ?_, ?_⟩
      · simp only [PageOp.run, pagePoolAllocFrag, allocated, Option.bind_some, counted,
          Option.map_some, Option.map_none, Holders.alloc]
      · rw [freed', freed]
        exact (List.append_nil _).symm
      · intro page member
        simp [PageOp.puts, member]
    | some fresh =>
      obtain ⟨s', counted, kept', -, freed'⟩ := kept₁.countIn has₁
        fun stats => { stats with allocSlow := stats.allocSlow + 1 }
      refine ⟨(s', s.2.alloc (some fresh)), ?_, kept', ?_, ?_⟩
      · simp only [PageOp.run, pagePoolAllocFrag, allocated, Option.bind_some, counted,
          Option.map_some]
      · rw [freed', freed]
        exact (List.append_nil _).symm
      · intro page member
        simp [PageOp.puts, grows (some fresh) page member]
  | get page =>
    obtain ⟨s', got, kept', freed, -⟩ := kept.getPage legal few
    refine ⟨(s', s.2.get page), ?_, kept', ?_, ?_⟩
    · simp only [PageOp.run, got, Option.map_some]
    · rw [freed]
      exact (List.append_nil _).symm
    · intro other member
      simp [PageOp.puts, Holders.get, member]
  | put page =>
    obtain ⟨found, here⟩ := Option.isSome_iff_exists.mp
      ((kept.memory page).mpr ((kept.held page).mpr legal))
    obtain ⟨s', put, kept', freed⟩ := kept.putPage here
    refine ⟨(s', s.2.put page), ?_, kept', ?_, shrinks page⟩
    · simp only [PageOp.run, put, Option.map_some]
    · simp only [freed, PageOp.frees, PageOp.puts, Option.bind_some, here]
  | putFull pool page =>
    obtain ⟨has, holds⟩ := legal
    obtain ⟨found, here⟩ := Option.isSome_iff_exists.mp
      ((kept.memory page).mpr ((kept.held page).mpr holds))
    obtain ⟨s₁, counted, kept₁, pages, freed₁⟩ := kept.countIn has
      fun stats => { stats with releaseSlow := stats.releaseSlow + 1 }
    obtain ⟨s', put, kept', freed⟩ := kept₁.putPage (by rw [pages, here])
    refine ⟨(s', s.2.put page), ?_, kept', ?_, shrinks page⟩
    · simp only [PageOp.run, pagePoolPutFullPage, counted, Option.bind_some, put,
        Option.map_some]
    · simp only [freed, freed₁, PageOp.frees, PageOp.puts, Option.bind_some, here]
  | create memory =>
    refine ⟨(pagePoolCreate memory s.1, s.2), rfl, ?_, ?_, ?_⟩
    · cases memory with
      | none => exact kept
      | some pool =>
        refine kept.rewrite (fun _ => rfl) kept.count (fun _ => Iff.rfl) ?_
        intro page found there given equal
        by_cases same : given = pool
        · rw [same, Function.update_self]
          rfl
        · rw [Function.update_of_ne same]
          exact kept.pools page found there given equal
    · cases memory with
      | none => exact (List.append_nil _).symm
      | some pool => exact (List.append_nil _).symm
    · intro page member
      simp [PageOp.puts, member]
  | destroy pool =>
    obtain ⟨s', destroyed, kept', freed, -⟩ := kept.destroy pool
    refine ⟨(s', s.2), ?_, kept', ?_, ?_⟩
    · simp only [PageOp.run, destroyed, Option.map_some]
    · rw [freed]
      exact (List.append_nil _).symm
    · intro page member
      simp [PageOp.puts, member]

/-- An empty registry is that of pages which nobody holds. -/
theorem kept_init (initial : (pagePool Ptr Pool).init s) : Kept s.1 s.2 := by
  obtain ⟨pages, holders⟩ := s
  obtain ⟨next, prev, page, pool, allocated, freed, holders_⟩ := initial
  subst holders_
  have none_ : ∀ p, pages.page p = none := fun p => congrFun page p
  refine ⟨⟨List.isChain_pair.mpr ⟨next, prev⟩, List.nodup_singleton none⟩, ?_, ?_, ?_, ?_, ?_, ?_,
    ?_⟩
  · simp [none_]
  · simp
  · simp [none_]
  · simp [none_]
  · simp [none_]
  · simp [none_]
  · have allocated : pages.allocated = [] := allocated
    have freed : pages.freed = [] := freed
    rw [allocated, freed]
    exact List.Perm.refl []

/-- In every run of legal calls that leaves few references, the registry is kept. -/
theorem kept_of_reach
    (reach : (pagePool Ptr Pool).Reach (fun s op => Legal s op ∧ Few s op) s) : Kept s.1 s.2 := by
  refine reach.invariant (fun s => Kept s.1 s.2) (fun _ init => kept_init init) ?_
  rintro t op u kept ⟨legal, few⟩ stepped
  obtain ⟨v, ran, kept', -⟩ := kept.step legal few
  have ran : (pagePool Ptr Pool).step t op = some v := ran
  obtain rfl := Option.some.inj (stepped.symm.trans ran)
  exact kept'

/-- What the registry promises: it has exactly the pages with references, a page is freed exactly
when its last reference is put, an address is found in the page that holds it, and no page refers
to a pool that was destroyed. -/
structure Registered (s : Pages Ptr Pool × Holders Ptr) : Prop where
  /-- The registry has some pages, each once. -/
  registry : s.1.links.Circle none (s.2.pages.map some)
  /-- These are the pages whose count is not zero. -/
  counted : ∀ page, page ∈ s.2.pages ↔
    ∃ found, s.1.page page = some found ∧ found.lcompatRefcnt ≠ 0
  /-- A count is the number of references. -/
  count : ∀ page found, s.1.page page = some found →
    found.lcompatRefcnt.toNat = s.2.held page
  /-- What was allocated was freed once, or is that of a page in the registry. -/
  balance : s.1.allocated.Perm
    (s.1.freed ++ s.2.pages.filterMap fun page => (s.1.page page).map Page.frames)
  /-- A page leaves the registry, and its frames are freed, when the count gets to zero. -/
  step : ∀ op, Legal s op → Few s op → ∃ t, op.run s = some t ∧
    t.1.freed = s.1.freed ++ op.frees s.1 ∧
    ∀ page found, s.1.page page = some found →
      (page ∉ t.2.pages ↔ op.puts = some page ∧ found.lcompatRefcnt = 1)
  /-- The page that holds an address is unique and found, if there is one. -/
  lookup : ∀ addr, ∃ result,
    virtToHeadPage s.2.pages.length addr s.1 = some result ∧
      ∀ page, result = some page ↔ Holds s.1 addr page
  /-- Pages refer to pools in memory. -/
  pools : ∀ page found, s.1.page page = some found → HasPool s.1 found.pp
  /-- No page refers to a pool that was just destroyed. -/
  destroyed : ∀ pool, Legal s (.destroy pool) → ∃ t, (PageOp.destroy pool).run s = some t ∧
    ∀ page found, t.1.page page = some found → found.pp ≠ some pool

/-- In every run where the allocators do what they should and no page has `2 ^ 32` references, the
registry keeps its promises. -/
theorem registered_of_few
    (reach : (pagePool Ptr Pool).Reach (fun s op => Legal s op ∧ Few s op) s) : Registered s := by
  have kept := kept_of_reach reach
  have member : ∀ {page found}, s.1.page page = some found → page ∈ s.2.pages := by
    intro page found here
    rw [← kept.memory, here]
    rfl
  have one : (1 : UInt32).toNat = 1 := rfl
  have zero : (0 : UInt32).toNat = 0 := rfl
  refine ⟨kept.circle, ?_, kept.count, kept.balance, ?_, kept.virtToHeadPage, kept.pools, ?_⟩
  · intro page
    constructor
    · intro there
      obtain ⟨found, here⟩ := Option.isSome_iff_exists.mp ((kept.memory page).mpr there)
      refine ⟨found, here, ?_⟩
      intro none_
      have counts := kept.count page found here
      rw [none_, zero] at counts
      exact (kept.held page).mp there counts.symm
    · rintro ⟨found, here, -⟩
      exact member here
  · intro op legal few
    obtain ⟨t, ran, -, freed, gone⟩ := kept.step legal few
    refine ⟨t, ran, freed, ?_⟩
    intro page found here
    have last : s.2.held page = 1 ↔ found.lcompatRefcnt = 1 := by
      rw [← kept.count page found here, ← UInt32.toNat_inj, one]
    rw [gone page (member here), last]
  · intro pool _
    obtain ⟨s', destroyed, -, -, forgotten⟩ := kept.destroy pool
    refine ⟨(s', s.2), ?_, forgotten⟩
    simp only [PageOp.run, destroyed, Option.map_some]

end Runs

section Instances

/-- Nothing is allocated. -/
def nothing : Pages Nat Nat × Holders Nat :=
  (⟨⟨fun _ => some none, fun _ => some none⟩, fun _ => none, fun _ => none, [], []⟩,
    ⟨[], fun _ => 0⟩)

/-- A page of a pool with two references. -/
theorem registered_of_few_frag : ∃ s, (pagePool Nat Nat).Reach
    (fun s op => Legal s op ∧ Few s op) s ∧ s.2.pages = [1] ∧ s.2.held 1 = 2 ∧ Registered s := by
  have start : (pagePool Nat Nat).Reach (fun s op => Legal s op ∧ Few s op) nothing :=
    ⟨nothing, ⟨rfl, rfl, rfl, rfl, rfl, rfl, rfl⟩, .refl _⟩
  have create : Legal nothing (.create (some 0)) ∧ Few nothing (.create (some 0)) :=
    ⟨fun _ _ => rfl, trivial⟩
  have created := start.step (a := PageOp.create (some 0)) create rfl
  have alloc : Legal (pagePoolCreate (some 0) nothing.1, nothing.2)
        (.allocFrag (some 0) 100 (some 1) 4096) ∧
      Few (pagePoolCreate (some 0) nothing.1, nothing.2)
        (.allocFrag (some 0) 100 (some 1) 4096) := by
    refine ⟨⟨?_, ?_⟩, trivial⟩
    · rintro given ⟨⟩
      rfl
    · rintro page ⟨⟩
      refine ⟨rfl, by decide, by decide, ?_⟩
      intro other found there
      exact nomatch there
  have allocated := created.step (a := PageOp.allocFrag (some 0) 100 (some 1) 4096) alloc rfl
  have shared := allocated.step (a := PageOp.get 1)
    (by exact ⟨Nat.one_ne_zero, (by decide : 1 + 1 < 2 ^ 32)⟩) rfl
  exact ⟨_, shared, rfl, rfl, registered_of_few shared⟩

/-- After a page is allocated, any number of references can be taken, and the count is their number
modulo `2 ^ 32`. -/
theorem exists_held (n : Nat) : ∃ s found, (pagePool Nat Nat).Reach Legal s ∧
    s.1.links.next none = some (some 0) ∧ s.1.page 0 = some found ∧ s.2.held 0 = n + 1 ∧
    found.lcompatRefcnt.toNat = (n + 1) % 2 ^ 32 := by
  induction n with
  | zero =>
    have start : (pagePool Nat Nat).Reach Legal nothing :=
      ⟨nothing, ⟨rfl, rfl, rfl, rfl, rfl, rfl, rfl⟩, .refl _⟩
    have legal : Legal nothing (.allocPages 0 (some 0) 4096) := by
      rintro - page ⟨⟩
      refine ⟨rfl, by decide, by decide, ?_⟩
      intro other found there
      exact nomatch there
    have allocated := start.step (a := .allocPages 0 (some 0) 4096) legal rfl
    exact ⟨_, _, allocated, rfl, rfl, rfl, rfl⟩
  | succ n ih =>
    obtain ⟨s, found, reach, next, here, held, count⟩ := ih
    have holds : s.2.held 0 ≠ 0 := by omega
    have stepped : (pagePool Nat Nat).step s (.get 0) =
        (getPage 0 s.1).map fun pages => (pages, s.2.get 0) := rfl
    rw [getPage, here, Option.map_some, Option.map_some] at stepped
    have more : (found.lcompatRefcnt + 1).toNat = (n + 1 + 1) % 2 ^ 32 := by
      have one : (1 : UInt32).toNat = 1 := rfl
      rw [UInt32.toNat_add, count, one]
      omega
    refine ⟨_, { found with lcompatRefcnt := found.lcompatRefcnt + 1 },
      reach.step (a := .get 0) holds stepped, next, ?_, ?_, more⟩
    · simp only [Function.update_self]
    · simp only [Holders.get, Function.update_self, held]

/-- A page with `2 ^ 32` references is in the registry, and its count is zero. -/
theorem registry_wrap : ¬∀ s, (pagePool Nat Nat).Reach Legal s → ∀ page found,
    s.1.links.next none = some (some page) → s.1.page page = some found →
    found.lcompatRefcnt ≠ 0 := by
  intro claimed
  obtain ⟨s, found, reach, next, here, -, count⟩ := exists_held (2 ^ 32 - 1)
  apply claimed s reach 0 found next here
  apply UInt32.toNat_inj.mp
  rw [count]
  rfl

end Instances

end Lcompat.PagePool

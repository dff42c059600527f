import Lcompat.Xarray

/-!
# When an index is found

`xa_alloc` looks for a free index from `next` on and stops at the limit; it never comes back to the
indices below `next`, whether they were skipped or erased. `xa_alloc_cyclic_irq` starts where its
caller says and does not wrap either. No index from `2 ^ 60` on can be used at all, since the slots
would not fit into the address space.
-/

namespace Lcompat.Xarray

open Lcompat.Logic

variable {Entry : Type}

/-- `xa_alloc_cyclic_irq`, with what `next` points to, unless it is null: the index unless there is
an error, what `next` points to then, and the array. -/
def allocCyclicIrq (fresh : Option (Nat → Option Entry)) (xa : Xarray Entry)
    (entry : Option Entry) (min max : UInt64) (next : Option UInt64) :
    Option (Option UInt64 × Option UInt64 × Xarray Entry) := do
  let xa := match next with
    | some next => { xa with next := next }
    | none => xa
  let (ret, xa) ← alloc fresh xa entry min max
  return (ret, if ret.isSome then next.map fun _ => xa.next else next, xa)

/-- A call, with the contents of the memory that `krealloc` gives. -/
inductive AllocOp (Entry : Type) where
  /-- `xa_alloc`. -/
  | alloc (entry : Entry) (min max : UInt64) (fresh : Nat → Option Entry)
  /-- `xa_alloc_cyclic_irq`. -/
  | allocCyclicIrq (entry : Entry) (min max : UInt64) (next : Option UInt64)
    (fresh : Nat → Option Entry)
  /-- `xa_erase`. -/
  | erase (index : UInt64)

/-- The map after an index was returned for an entry, or an error. -/
def allocated (map : UInt64 → Option Entry) (ret : Option UInt64) (entry : Entry) :
    UInt64 → Option Entry :=
  match ret with
  | some id => Function.update map id (some entry)
  | none => map

/-- What a call makes of an array and of what has been allocated and not erased. -/
def AllocOp.run (s : Xarray Entry × (UInt64 → Option Entry)) :
    AllocOp Entry → Option (Xarray Entry × (UInt64 → Option Entry))
  | .alloc entry min max fresh => (Xarray.alloc (some fresh) s.1 (some entry) min max).map
    fun result => (result.2, allocated s.2 result.1 entry)
  | .allocCyclicIrq entry min max next fresh =>
    (Xarray.allocCyclicIrq (some fresh) s.1 (some entry) min max next).map
      fun result => (result.2.2, allocated s.2 result.1 entry)
  | .erase index => (Xarray.erase s.1 index).map fun result =>
    (result.2, Function.update s.2 index none)

/-- The runs of an array with memory always available. -/
def allocations (Entry : Type) : System (Xarray Entry × (UInt64 → Option Entry)) (AllocOp Entry)
    where
  init s := s = (Xarray.init, fun _ => none)
  step := AllocOp.run

/-- Every index of a range is occupied. -/
def Full (map : UInt64 → Option Entry) (min max : UInt64) : Prop :=
  ∀ id, min ≤ id → id ≤ max → map id ≠ none

/-- A call that allocates returns, and with an error only if its range is full. -/
def FailsOnlyWhenFull (s : Xarray Entry × (UInt64 → Option Entry)) : AllocOp Entry → Prop
  | .alloc entry min max fresh => ∃ ret xa',
    alloc (some fresh) s.1 (some entry) min max = some (ret, xa') ∧
      (ret = none → Full s.2 min max)
  | .allocCyclicIrq entry min max next fresh => ∃ ret next' xa',
    allocCyclicIrq (some fresh) s.1 (some entry) min max next = some (ret, next', xa') ∧
      (ret = none → Full s.2 min max)
  | .erase _ => True

/-- If an index of a range is free, one is free that is not below a position and below `2 ^ 60`. -/
def FreeAhead (map : UInt64 → Option Entry) (next min max : UInt64) : Prop :=
  (∃ id, min ≤ id ∧ id ≤ max ∧ map id = none) →
    ∃ id, min ≤ id ∧ next ≤ id ∧ id ≤ max ∧ map id = none ∧ id.toNat < 2 ^ 60

/-- If the range of a call that allocates has a free index, it has one that is not below the
position at which the call starts, and below `2 ^ 60`. -/
def StartsBelowFree (s : Xarray Entry × (UInt64 → Option Entry)) : AllocOp Entry → Prop
  | .alloc _ min max _ => FreeAhead s.2 s.1.next min max
  | .allocCyclicIrq _ min max next _ => FreeAhead s.2 (next.getD s.1.next) min max
  | .erase _ => True

/-- A capacity is a power of two for which there is room in the address space, or zero. -/
def Sized (capacity : UInt64) : Prop :=
  capacity = 0 ∨ ∃ times ≤ 56, capacity.toNat = 16 * 2 ^ times

/-- What the loop that doubles the capacity starts from is 16 times a power of two. -/
theorem Sized.base {capacity : UInt64} (sized : Sized capacity) :
    ∃ times ≤ 56, (if capacity ≠ 0 then capacity else 16).toNat = 16 * 2 ^ times := by
  obtain rfl | ⟨times, small, same⟩ := sized
  · exact ⟨0, by omega, rfl⟩
  · have positive : capacity ≠ 0 := by
      rintro rfl
      have power : 0 < 2 ^ times := Nat.two_pow_pos times
      rw [UInt64.toNat_zero] at same
      omega
    rw [if_pos positive]
    exact ⟨times, small, same⟩

/-- The loop that doubles the capacity does not go further than it must, and overflows for the last
indices only. -/
theorem grownCapacity_least {turns : Nat} {index capacity : UInt64} {grown : Option UInt64}
    (ends : grownCapacity turns index capacity = some grown) :
    match grown with
    | none => 2 ^ 63 ≤ index.toNat
    | some final => final = capacity ∨ final.toNat ≤ 2 * index.toNat := by
  induction turns generalizing capacity with
  | zero => cases ends
  | succ turns ih =>
    rw [grownCapacity] at ends
    by_cases short : capacity ≤ index
    · rw [if_pos short] at ends
      have below := UInt64.le_iff_toNat_le.mp short
      by_cases huge : capacity > ulongMax / 2
      · rw [if_pos huge, Option.some.injEq] at ends
        subst ends
        have bound : (2 ^ 64 - 1) / 2 < capacity.toNat := UInt64.lt_iff_toNat_lt.mp huge
        show 2 ^ 63 ≤ index.toNat
        omega
      · rw [if_neg huge] at ends
        have twice : (capacity * 2).toNat ≤ 2 * index.toNat := by
          rw [UInt64.toNat_mul]
          have less := Nat.mod_le (capacity.toNat * (2 : UInt64).toNat) (2 ^ 64)
          simp only [UInt64.reduceToNat] at less ⊢
          omega
        have later := ih ends
        cases grown with
        | none => exact later
        | some final =>
          right
          rcases later with rfl | bound
          · exact twice
          · exact bound
    · rw [if_neg short, Option.some.injEq] at ends
      subst ends
      exact .inl rfl

/-- With memory, no room is made only for an index from `2 ^ 60` on. -/
theorem large_of_ensureCapacity_fails {xa xa' : Xarray Entry} {fresh : Nat → Option Entry}
    {index : UInt64} (sized : Sized xa.capacity)
    (failed : ensureCapacity (some fresh) xa index = some (-1, xa')) : 2 ^ 60 ≤ index.toNat := by
  obtain ⟨times, small, base⟩ := sized.base
  have most : 2 ^ times ≤ 2 ^ 56 := Nat.pow_le_pow_right (by decide) small
  unfold ensureCapacity at failed
  split at failed
  · simp at failed
  · obtain ⟨grown, ends, result⟩ := Option.map_eq_some_iff.mp failed
    have least := grownCapacity_least ends
    cases grown with
    | none =>
      have far : 2 ^ 63 ≤ index.toNat := least
      omega
    | some final =>
      have least : final = _ ∨ final.toNat ≤ 2 * index.toNat := least
      by_cases huge : final > ulongMax / 8
      · have bound : (2 ^ 64 - 1) / 8 < final.toNat := UInt64.lt_iff_toNat_lt.mp huge
        rcases least with rfl | near
        · omega
        · omega
      · simp [huge, krealloc] at result

/-- With memory, room is made exactly for the indices below `2 ^ 60`, and capacities stay powers of
two. -/
theorem ensureCapacity_sized {xa : Xarray Entry} {map : UInt64 → Option Entry}
    (represents : xa.Represents map) (sized : Sized xa.capacity) (fresh : Nat → Option Entry)
    (index : UInt64) : ∃ ret xa', ensureCapacity (some fresh) xa index = some (ret, xa') ∧
      Sized xa'.capacity ∧ (ret = 0 ↔ index.toNat < 2 ^ 60) := by
  obtain ⟨ret, xa', made, kept, -, room | failed⟩ :=
    ensureCapacity_represents represents (some fresh) index
  · obtain ⟨rfl, inside, same | grown⟩ := room
    · subst same
      refine ⟨0, xa', made, sized, iff_of_true rfl ?_⟩
      have inside := UInt64.lt_iff_toNat_lt.mp inside
      have small := kept.small
      obtain zero | ⟨times, most, capacity⟩ := sized
      · rw [zero, UInt64.toNat_zero] at inside
        omega
      · have most : 2 ^ times ≤ 2 ^ 56 := Nat.pow_le_pow_right (by decide) most
        omega
    · obtain ⟨times, most, base⟩ := sized.base
      obtain ⟨more, doubled⟩ := grown.doubled
      have power : xa'.capacity.toNat = 16 * 2 ^ (times + more) := by
        rw [doubled, base, Nat.mul_assoc, ← Nat.pow_add]
      -- the slots fit into the address space, so there are at most `2 ^ 60`
      have small := kept.small
      have fits : times + more ≤ 56 := by
        by_contra large
        have least : 2 ^ 57 ≤ 2 ^ (times + more) := Nat.pow_le_pow_right (by decide) (by omega)
        omega
      have bound : 2 ^ (times + more) ≤ 2 ^ 56 := Nat.pow_le_pow_right (by decide) fits
      have inside := UInt64.lt_iff_toNat_lt.mp inside
      exact ⟨0, xa', made, .inr ⟨_, fits, power⟩, iff_of_true rfl (by omega)⟩
  · obtain ⟨rfl, rfl⟩ := failed
    have large := large_of_ensureCapacity_fails sized made
    exact ⟨-1, xa', made, sized, iff_of_false (by decide) (by omega)⟩

variable {xa : Xarray Entry} {map : UInt64 → Option Entry}

/-- The loop of `xa_alloc` only goes past indices that are occupied. -/
theorem occupied_below_freeIndex (represents : xa.Represents map) {max index free : UInt64}
    {turns : Nat} (ends : xa.freeIndex max turns index = some free) {i : UInt64}
    (least : index ≤ i) (below : i < free) : map i ≠ none := by
  induction turns generalizing index with
  | zero => cases ends
  | succ turns ih =>
    rw [freeIndex] at ends
    split at ends
    · rw [load_eq represents] at ends
      simp only [Option.bind_eq_bind, Option.bind_some] at ends
      split at ends
      · rename_i occupied
        by_cases here : i = index
        · subst here
          exact Option.isSome_iff_ne_none.mp occupied
        · refine ih ends ?_
          rw [UInt64.le_iff_toNat_le] at least ⊢
          have apart : i.toNat ≠ index.toNat := fun same => here (UInt64.toNat_inj.mp same)
          have bound := i.toNat_lt
          rw [UInt64.toNat_add, Nat.mod_eq_of_lt (by simp only [UInt64.reduceToNat]; omega)]
          simp only [UInt64.reduceToNat]
          omega
      · obtain rfl := Option.some.inj ends
        exact absurd (UInt64.lt_of_le_of_lt least below) (UInt64.lt_irrefl _)
    · obtain rfl := Option.some.inj ends
      exact absurd (UInt64.lt_of_le_of_lt least below) (UInt64.lt_irrefl _)

/-- The position at which the loop starts. -/
theorem start_le_iff {next min id : UInt64} :
    (if next < min then min else next) ≤ id ↔ min ≤ id ∧ next ≤ id := by
  split
  · rename_i below
    exact ⟨fun least => ⟨least, UInt64.le_trans (UInt64.le_of_lt below) least⟩, fun both => both.1⟩
  · rename_i above
    exact ⟨fun least => ⟨UInt64.le_trans (UInt64.not_lt.mp above) least, least⟩, fun both => both.2⟩

/-- `xa_alloc` returns an index exactly if one below `2 ^ 60` is free that is not below `next`. -/
theorem alloc_isSome_iff (represents : xa.Represents map) (sized : Sized xa.capacity)
    (fresh : Nat → Option Entry) (entry : Entry) (min max : UInt64) : ∃ ret xa',
      alloc (some fresh) xa (some entry) min max = some (ret, xa') ∧
        xa'.Represents (allocated map ret entry) ∧ Sized xa'.capacity ∧
        (ret ≠ none ↔
          ∃ id, min ≤ id ∧ xa.next ≤ id ∧ id ≤ max ∧ map id = none ∧ id.toNat < 2 ^ 60) := by
  obtain ⟨free, ends, least, empty⟩ := @freeIndex_ends _ _ _ represents max _
    (if xa.next < min then min else xa.next) (Nat.succ_pos xa.capacity.toNat) (by omega)
  -- nothing is free between the start of the loop and its end
  have passed : ∀ id, min ≤ id → xa.next ≤ id → map id = none → free ≤ id := by
    intro id above ahead unused
    by_contra below
    exact occupied_below_freeIndex represents ends (start_le_iff.mpr ⟨above, ahead⟩)
      (UInt64.not_le.mp below) unused
  by_cases past : free > max
  · refine ⟨none, xa, ?_, represents, sized, iff_of_false (by simp) ?_⟩
    · simp [alloc, ends, past]
    · rintro ⟨id, above, ahead, within, unused, -⟩
      have behind := UInt64.le_trans (passed id above ahead unused) within
      exact absurd past (UInt64.not_lt.mpr behind)
  · have within := UInt64.not_lt.mp past
    obtain ⟨ret, xa₁, made, sized₁, exactly⟩ := ensureCapacity_sized represents sized fresh free
    obtain ⟨ret', xa₁', made', kept, -, outcome⟩ :=
      ensureCapacity_represents represents (some fresh) free
    obtain ⟨rfl, rfl⟩ := Prod.mk.inj (Option.some.inj (made.symm.trans made'))
    rcases outcome with ⟨rfl, inside, -⟩ | ⟨rfl, rfl⟩
    · obtain ⟨xa₂, written, capacity, updated⟩ := write_represents kept inside (some entry)
      refine ⟨some free, { xa₂ with next := free + 1 }, ?_,
        ⟨updated.length, updated.small, updated.holds⟩, ?_, iff_of_true (by simp) ?_⟩
      · simp [alloc, ends, past, made, written]
      · show Sized xa₂.capacity
        rw [capacity]
        exact sized₁
      · obtain ⟨above, ahead⟩ := start_le_iff.mp least
        exact ⟨free, above, ahead, within, empty within, exactly.mp rfl⟩
    · refine ⟨none, xa₁, ?_, represents, sized, iff_of_false (by simp) ?_⟩
      · simp [alloc, ends, past, made]
      · rintro ⟨id, above, ahead, -, unused, small⟩
        have behind := UInt64.le_iff_toNat_le.mp (passed id above ahead unused)
        have large : ¬free.toNat < 2 ^ 60 := fun fits => absurd (exactly.mpr fits) (by decide)
        omega

/-- What `xa_alloc_cyclic_irq` does is what `xa_alloc` does from where its caller says. -/
theorem allocCyclicIrq_isSome_iff (represents : xa.Represents map) (sized : Sized xa.capacity)
    (fresh : Nat → Option Entry) (entry : Entry) (min max : UInt64) (next : Option UInt64) :
    ∃ ret next' xa',
      allocCyclicIrq (some fresh) xa (some entry) min max next = some (ret, next', xa') ∧
        xa'.Represents (allocated map ret entry) ∧ Sized xa'.capacity ∧
        (ret ≠ none ↔ ∃ id, min ≤ id ∧ next.getD xa.next ≤ id ∧ id ≤ max ∧ map id = none ∧
          id.toNat < 2 ^ 60) := by
  have moved : ({ xa with next := next.getD xa.next } : Xarray Entry).Represents map :=
    ⟨represents.length, represents.small, represents.holds⟩
  obtain ⟨ret, xa', made, kept, sized', exactly⟩ :=
    alloc_isSome_iff moved sized fresh entry min max
  refine ⟨ret, if ret.isSome then next.map fun _ => xa'.next else next, xa', ?_, kept, sized',
    exactly⟩
  cases next with
  | none =>
    simp only [Option.getD_none] at made
    simp [allocCyclicIrq, made]
  | some next =>
    simp only [Option.getD_some] at made
    simp [allocCyclicIrq, made]

/-- A range is full when nothing was allocated in it exactly if a free index of it would have been
found. -/
theorem fails_only_when_full_iff {ret : Option UInt64} {next min max : UInt64}
    (exactly : ret ≠ none ↔
      ∃ id, min ≤ id ∧ next ≤ id ∧ id ≤ max ∧ map id = none ∧ id.toNat < 2 ^ 60) :
    (ret = none → Full map min max) ↔ FreeAhead map next min max := by
  unfold FreeAhead
  rw [← exactly]
  constructor
  · rintro full ⟨id, above, within, unused⟩ failed
    exact full failed id above within unused
  · intro found failed id above within unused
    exact found ⟨id, above, within, unused⟩ failed

/-- The invariant: the array stands for what has been allocated and not erased. -/
structure Allocated (s : Xarray Entry × (UInt64 → Option Entry)) : Prop where
  /-- The array stands for the map. -/
  represents : s.1.Represents s.2
  /-- Its capacity is a power of two, or zero. -/
  sized : Sized s.1.capacity

/-- A call that fails has a full range exactly if it starts below a free index of it. -/
theorem failsOnlyWhenFull_iff {s : Xarray Entry × (UInt64 → Option Entry)} (op : AllocOp Entry)
    (inv : Allocated s) : FailsOnlyWhenFull s op ↔ StartsBelowFree s op := by
  cases op with
  | alloc entry min max fresh =>
    obtain ⟨ret, xa', made, -, -, exactly⟩ :=
      alloc_isSome_iff inv.represents inv.sized fresh entry min max
    have here := fails_only_when_full_iff exactly
    simpa [FailsOnlyWhenFull, StartsBelowFree, made] using here
  | allocCyclicIrq entry min max next fresh =>
    obtain ⟨ret, next', xa', made, -, -, exactly⟩ :=
      allocCyclicIrq_isSome_iff inv.represents inv.sized fresh entry min max next
    have here := fails_only_when_full_iff exactly
    simpa [FailsOnlyWhenFull, StartsBelowFree, made] using here
  | erase index => exact Iff.rfl

/-- `xa_erase` keeps the capacity. -/
theorem capacity_erase {xa xa' : Xarray Entry} {index : UInt64} {old : Option Entry}
    (erased : erase xa index = some (old, xa')) : xa'.capacity = xa.capacity := by
  unfold erase write at erased
  grind -ring -linarith

/-- A call keeps the invariant. -/
theorem AllocOp.run_allocated {s s' : Xarray Entry × (UInt64 → Option Entry)} (op : AllocOp Entry)
    (inv : Allocated s) (ran : op.run s = some s') : Allocated s' := by
  cases op with
  | alloc entry min max fresh =>
    obtain ⟨ret, xa', made, kept, sized, -⟩ :=
      alloc_isSome_iff inv.represents inv.sized fresh entry min max
    rw [AllocOp.run, made, Option.map_some, Option.some.injEq] at ran
    subst ran
    exact ⟨kept, sized⟩
  | allocCyclicIrq entry min max next fresh =>
    obtain ⟨ret, next', xa', made, kept, sized, -⟩ :=
      allocCyclicIrq_isSome_iff inv.represents inv.sized fresh entry min max next
    rw [AllocOp.run, made, Option.map_some, Option.some.injEq] at ran
    subst ran
    exact ⟨kept, sized⟩
  | erase index =>
    obtain ⟨xa', erased, updated⟩ := erase_represents inv.represents index
    rw [AllocOp.run, erased, Option.map_some, Option.some.injEq] at ran
    subst ran
    refine ⟨updated, ?_⟩
    rw [capacity_erase erased]
    exact inv.sized

/-- In every run, calls that allocate fail only when their range is full if and only if each of them
starts below a free index of its range, where there is one. -/
theorem allocations_fail_only_when_full_iff {ops : List (AllocOp Entry)} :
    (allocations Entry).Along FailsOnlyWhenFull (Xarray.init, fun _ => none) ops ↔
      (allocations Entry).Along StartsBelowFree (Xarray.init, fun _ => none) ops := by
  have empty : Allocated ((Xarray.init, fun _ => none) : Xarray Entry × _) :=
    ⟨init_represents, .inl rfl⟩
  refine System.along_iff_along (fun s op (inv : Allocated s) => failsOnlyWhenFull_iff op inv) ?_
    empty
  exact fun s op s' inv ran => op.run_allocated inv ran

/-- An index that was erased is not found again. -/
theorem erasedIndex_not_found :
    ¬∀ s, (allocations Nat).Reachable s → ∀ op, FailsOnlyWhenFull s op := by
  intro always
  have ran : ((allocations Nat).run (Xarray.init, fun _ => none)
      [.alloc 7 0 0 fun _ => none, .erase 0]).map (fun s =>
        (s.2 0, (alloc (some fun _ => none) s.1 (some 8) 0 0).map Prod.fst)) =
          some (none, some none) := by
    decide +kernel
  obtain ⟨s, ran, found⟩ := Option.map_eq_some_iff.mp ran
  obtain ⟨unused, result⟩ := Prod.mk.inj found
  obtain ⟨⟨_, xa'⟩, made, rfl⟩ := Option.map_eq_some_iff.mp result
  obtain ⟨ret, xa'', made', full⟩ :=
    always s (System.reachable_of_run rfl ran) (.alloc 8 0 0 fun _ => none)
  obtain ⟨rfl, rfl⟩ := Prod.mk.inj (Option.some.inj (made.symm.trans made'))
  exact full rfl 0 (by decide) (by decide) unused

end Lcompat.Xarray

import Lcompat.Logic.System

/-!
# Growing arrays of pointers

`xarray.h` keeps a map from indices to pointers as an array that grows by doubling. The array is
described by the map that it stands for: every operation reads and changes this map at one index, a
failure leaves the map as it is, and walking over the array walks over the map in ascending order.
An access outside the array is a fault.
-/

namespace Lcompat

open Lcompat.Logic

/-- `struct xarray`, with the pointers at `slots`; a null pointer is no entry. -/
structure Xarray (Entry : Type) where
  /-- `slots`, as far as there is memory. -/
  slots : List (Option Entry)
  /-- `capacity`. -/
  capacity : UInt64
  /-- `next`. -/
  next : UInt64

namespace Xarray

variable {Entry : Type}

/-- `ULONG_MAX`, and `SIZE_MAX`. -/
def ulongMax : UInt64 := 0xffffffffffffffff

/-- `xa_init_flags`. -/
def init : Xarray Entry := ⟨[], 0, 0⟩

/-- `krealloc`: fresh memory holds anything behind what is kept. -/
def krealloc (slots : List (Option Entry)) (count : Nat) (fresh : Option (Nat → Option Entry)) :
    Option (List (Option Entry)) :=
  fresh.map fun fresh => slots.take count ++ (List.range (count - slots.length)).map fresh

/-- The loop of `xa_ensure_capacity` that doubles the capacity: what it comes to, if it comes to an
end in some turns. -/
def grownCapacity : Nat → UInt64 → UInt64 → Option (Option UInt64)
  | 0, _, _ => none
  | turns + 1, index, capacity =>
    if capacity ≤ index then
      if capacity > ulongMax / 2 then some none
      else grownCapacity turns index (capacity * 2)
    else some (some capacity)

/-- The loop of `xa_ensure_capacity` that clears the slots from an old capacity on. -/
def clearFrom (slots : List (Option Entry)) (capacity : Nat) : List (Option Entry) :=
  slots.take capacity ++ List.replicate (slots.length - capacity) none

/-- `xa_ensure_capacity`: the result, and the array. -/
def ensureCapacity (fresh : Option (Nat → Option Entry)) (xa : Xarray Entry) (index : UInt64) :
    Option (Int × Xarray Entry) :=
  if index < xa.capacity then some (0, xa)
  else
    (grownCapacity 64 index (if xa.capacity ≠ 0 then xa.capacity else 16)).map fun grown =>
      match grown with
      | none => (-1, xa)
      | some capacity =>
        if capacity > ulongMax / 8 then (-1, xa)
        else
          match krealloc xa.slots capacity.toNat fresh with
          | none => (-1, xa)
          | some slots => (0, { xa with slots := clearFrom slots xa.capacity.toNat, capacity })

/-- `xa_load`. -/
def load (xa : Xarray Entry) (index : UInt64) : Option (Option Entry) :=
  if index ≥ xa.capacity then some none else xa.slots[index.toNat]?

/-- Write a slot. -/
def write (xa : Xarray Entry) (index : UInt64) (entry : Option Entry) : Option (Xarray Entry) :=
  if index.toNat < xa.slots.length then
    some { xa with slots := xa.slots.set index.toNat entry }
  else none

/-- `xa_store`: the previous entry unless there is an error, and the array. -/
def store (fresh : Option (Nat → Option Entry)) (xa : Xarray Entry) (index : UInt64)
    (entry : Option Entry) : Option (Option (Option Entry) × Xarray Entry) := do
  let (ret, xa) ← ensureCapacity fresh xa index
  if ret ≠ 0 then return (none, xa)
  let old ← xa.slots[index.toNat]?
  let xa ← xa.write index entry
  return (some old, xa)

/-- `xa_erase`: the previous entry, and the array. -/
def erase (xa : Xarray Entry) (index : UInt64) : Option (Option Entry × Xarray Entry) :=
  if index ≥ xa.capacity then some (none, xa)
  else do
    let old ← xa.slots[index.toNat]?
    let xa ← xa.write index none
    return (old, xa)

/-- The loop of `xa_alloc`: the index that it stops at, if it stops in some turns. -/
def freeIndex (xa : Xarray Entry) (max : UInt64) : Nat → UInt64 → Option UInt64
  | 0, _ => none
  | turns + 1, index =>
    if index ≤ max then do
      let entry ← xa.load index
      if entry.isSome then xa.freeIndex max turns (index + 1) else return index
    else some index

/-- `xa_alloc`, with the limits of its range: the index unless there is an error, and the array. -/
def alloc (fresh : Option (Nat → Option Entry)) (xa : Xarray Entry) (entry : Option Entry)
    (min max : UInt64) : Option (Option UInt64 × Xarray Entry) := do
  let index ← xa.freeIndex max (xa.capacity.toNat + 1) (if xa.next < min then min else xa.next)
  if index > max then return (none, xa)
  let (ret, xa) ← ensureCapacity fresh xa index
  if ret ≠ 0 then return (none, xa)
  let xa ← xa.write index entry
  return (some index, { xa with next := index + 1 })

/-- The indices and the entries that `xa_for_each` walks over from an index on, if it comes to an
end in some turns. -/
def forEachFrom (xa : Xarray Entry) : Nat → UInt64 → Option (List (UInt64 × Entry))
  | 0, _ => none
  | turns + 1, index =>
    if index < xa.capacity then do
      let entry ← xa.slots[index.toNat]?
      let rest ← xa.forEachFrom turns (index + 1)
      match entry with
      | none => return rest
      | some entry => return (index, entry) :: rest
    else some []

/-- `xa_for_each`: the indices and the entries that it walks over. -/
def forEach (xa : Xarray Entry) : Option (List (UInt64 × Entry)) :=
  xa.forEachFrom (xa.capacity.toNat + 1) 0

/-- An array stands for a map: it has as many slots as its capacity says, in the address space, and
these hold what the map holds. -/
structure Represents (xa : Xarray Entry) (map : UInt64 → Option Entry) : Prop where
  /-- There is memory for the slots. -/
  length : xa.slots.length = xa.capacity.toNat
  /-- The slots fit into the address space. -/
  small : xa.capacity.toNat * 8 < 2 ^ 64
  /-- The slots hold the map. -/
  holds : ∀ index : UInt64, (xa.slots[index.toNat]?).join = map index

/-- A capacity that has been doubled is larger than an index, and has not overflowed. -/
structure Grown (index capacity grown : UInt64) : Prop where
  /-- It is larger than the index. -/
  past : index < grown
  /-- It has been doubled some times. -/
  doubled : ∃ times, grown.toNat = capacity.toNat * 2 ^ times

/-- The loop that doubles the capacity ends, without an overflow. -/
theorem grownCapacity_ends {turns : Nat} {index capacity : UInt64}
    (enough : 2 ^ 64 ≤ capacity.toNat * 2 ^ turns) : ∃ grown,
      grownCapacity turns index capacity = some grown ∧
        ∀ final, grown = some final → Grown index capacity final := by
  induction turns generalizing capacity with
  | zero =>
    have small := capacity.toNat_lt
    omega
  | succ turns ih =>
    rw [grownCapacity]
    by_cases short : capacity ≤ index
    · rw [if_pos short]
      by_cases huge : capacity > ulongMax / 2
      · rw [if_pos huge]
        exact ⟨none, rfl, by rintro _ ⟨⟩⟩
      · rw [if_neg huge]
        have bound : capacity.toNat ≤ (2 ^ 64 - 1) / 2 := by
          rw [gt_iff_lt, UInt64.not_lt, UInt64.le_iff_toNat_le] at huge
          exact huge
        have twice : (capacity * 2).toNat = capacity.toNat * 2 := by
          rw [UInt64.toNat_mul]
          exact Nat.mod_eq_of_lt (by simp only [UInt64.reduceToNat]; omega)
        have more : 2 ^ 64 ≤ (capacity * 2).toNat * 2 ^ turns := by
          rw [twice, Nat.mul_assoc, ← Nat.pow_succ']
          exact enough
        obtain ⟨grown, ends, ok⟩ := ih more
        refine ⟨grown, ends, fun final same => ?_⟩
        obtain ⟨past, times, doubled⟩ := ok final same
        refine ⟨past, times + 1, ?_⟩
        rw [doubled, twice, Nat.mul_assoc, ← Nat.pow_succ']
    · rw [if_neg short]
      refine ⟨some capacity, rfl, ?_⟩
      rintro _ ⟨⟩
      exact ⟨UInt64.not_le.mp short, 0, by simp⟩

/-- Slots that have been cleared hold what was there before the old capacity, and nothing behind. -/
theorem join_clearFrom {slots fresh : List (Option Entry)} {capacity : Nat}
    (old : slots.length = capacity) (i : Nat) :
    ((clearFrom (slots ++ fresh) capacity)[i]?).join = (slots[i]?).join := by
  rw [clearFrom, ← old, List.take_left]
  by_cases inside : i < slots.length
  · rw [List.getElem?_append_left inside]
  · rw [List.getElem?_append_right (by omega), List.getElem?_eq_none (by omega : slots.length ≤ i),
      List.getElem?_replicate]
    split <;> rfl

/-- Making room keeps the map, and there is room unless there is an error, which changes nothing. -/
theorem ensureCapacity_represents {xa : Xarray Entry} {map : UInt64 → Option Entry}
    (represents : xa.Represents map) (fresh : Option (Nat → Option Entry)) (index : UInt64) :
    ∃ ret xa', ensureCapacity fresh xa index = some (ret, xa') ∧ xa'.Represents map ∧
      xa'.next = xa.next ∧ (ret = 0 ∧ index < xa'.capacity ∧ (xa' = xa ∨
        Grown index (if xa.capacity ≠ 0 then xa.capacity else 16) xa'.capacity) ∨
      ret = -1 ∧ xa' = xa) := by
  unfold ensureCapacity
  by_cases inside : index < xa.capacity
  · rw [if_pos inside]
    exact ⟨0, xa, rfl, represents, rfl, .inl ⟨rfl, inside, .inl rfl⟩⟩
  · rw [if_neg inside]
    have enough : 2 ^ 64 ≤ (if xa.capacity ≠ 0 then xa.capacity else 16).toNat * 2 ^ 64 := by
      have positive : 1 ≤ (if xa.capacity ≠ 0 then xa.capacity else 16).toNat := by
        split
        · rename_i nonzero
          have apart : xa.capacity.toNat ≠ 0 := fun zero =>
            nonzero (UInt64.toNat_inj.mp (by simpa using zero))
          omega
        · decide
      exact Nat.le_mul_of_pos_left _ positive
    obtain ⟨grown, ends, ok⟩ := @grownCapacity_ends _ index _ enough
    rw [ends, Option.map_some]
    cases grown with
    | none => exact ⟨-1, xa, rfl, represents, rfl, .inr ⟨rfl, rfl⟩⟩
    | some capacity =>
      have grown := ok capacity rfl
      simp only
      by_cases huge : capacity > ulongMax / 8
      · rw [if_pos huge]
        exact ⟨-1, xa, rfl, represents, rfl, .inr ⟨rfl, rfl⟩⟩
      · rw [if_neg huge]
        cases fresh with
        | none => exact ⟨-1, xa, rfl, represents, rfl, .inr ⟨rfl, rfl⟩⟩
        | some fresh =>
          have larger : xa.capacity.toNat ≤ capacity.toNat := by
            have below := UInt64.not_lt.mp inside
            have above := grown.past
            rw [UInt64.le_iff_toNat_le] at below
            rw [UInt64.lt_iff_toNat_lt] at above
            omega
          have kept : xa.slots.take capacity.toNat = xa.slots :=
            List.take_of_length_le (by rw [represents.length]; exact larger)
          refine ⟨0, _, rfl, ⟨?_, ?_, ?_⟩, rfl, .inl ⟨rfl, grown.past, .inr grown⟩⟩
          · simp only [kept, clearFrom, List.length_append, List.length_take, List.length_map,
              List.length_range, List.length_replicate, represents.length]
            omega
          · rw [gt_iff_lt, UInt64.not_lt, UInt64.le_iff_toNat_le] at huge
            have bound : capacity.toNat ≤ (2 ^ 64 - 1) / 8 := huge
            show capacity.toNat * 8 < 2 ^ 64
            omega
          · intro index
            rw [kept, join_clearFrom represents.length]
            exact represents.holds index

variable {xa : Xarray Entry} {map : UInt64 → Option Entry}

/-- A slot inside the array is there. -/
theorem Represents.slot (represents : xa.Represents map) {index : UInt64}
    (inside : index < xa.capacity) : xa.slots[index.toNat]? = some (map index) := by
  have place : index.toNat < xa.slots.length := by
    rw [represents.length]
    exact UInt64.lt_iff_toNat_lt.mp inside
  have held := represents.holds index
  rw [List.getElem?_eq_getElem place, Option.join_some] at held
  rw [List.getElem?_eq_getElem place, held]

/-- There is nothing behind the array. -/
theorem Represents.outside (represents : xa.Represents map) {index : UInt64}
    (outside : xa.capacity ≤ index) : map index = none := by
  have place : xa.slots.length ≤ index.toNat := by
    rw [represents.length]
    exact UInt64.le_iff_toNat_le.mp outside
  rw [← represents.holds index, List.getElem?_eq_none place, Option.join_none]

/-- `xa_load` reads the map. -/
theorem load_eq (represents : xa.Represents map) (index : UInt64) :
    xa.load index = some (map index) := by
  unfold load
  by_cases outside : xa.capacity ≤ index
  · rw [if_pos outside, represents.outside outside]
  · rw [if_neg outside]
    exact represents.slot (UInt64.not_le.mp outside)

/-- A write inside the array changes the map at one index. -/
theorem write_represents (represents : xa.Represents map) {index : UInt64}
    (inside : index < xa.capacity) (entry : Option Entry) : ∃ xa',
      xa.write index entry = some xa' ∧ xa'.capacity = xa.capacity ∧
        xa'.Represents (Function.update map index entry) := by
  have place : index.toNat < xa.slots.length := by
    rw [represents.length]
    exact UInt64.lt_iff_toNat_lt.mp inside
  refine ⟨_, if_pos place, rfl, ?_, represents.small, fun other => ?_⟩
  · rw [List.length_set]
    exact represents.length
  · by_cases same : other = index
    · subst same
      simp [place]
    · have apart : index.toNat ≠ other.toNat := fun equal => same (UInt64.toNat_inj.mp equal).symm
      rw [Function.update_of_ne same, List.getElem?_set_ne apart]
      exact represents.holds other

/-- `xa_store` returns the previous entry and changes the map at one index, or fails and changes
nothing. -/
theorem store_represents (represents : xa.Represents map) (fresh : Option (Nat → Option Entry))
    (index : UInt64) (entry : Option Entry) :
    ∃ ret xa', store fresh xa index entry = some (ret, xa') ∧
      (ret = some (map index) ∧ xa'.Represents (Function.update map index entry) ∨
        ret = none ∧ xa' = xa) := by
  obtain ⟨ret, xa₁, made, kept, -, room | failed⟩ :=
    ensureCapacity_represents represents fresh index
  · obtain ⟨rfl, inside, -⟩ := room
    obtain ⟨xa₂, written, -, updated⟩ := write_represents kept inside entry
    refine ⟨some (map index), xa₂, ?_, .inl ⟨rfl, updated⟩⟩
    simp [store, made, kept.slot inside, written]
  · obtain ⟨rfl, rfl⟩ := failed
    refine ⟨none, xa₁, ?_, .inr ⟨rfl, rfl⟩⟩
    simp [store, made]

/-- `xa_erase` returns the previous entry and takes it out of the map. -/
theorem erase_represents (represents : xa.Represents map) (index : UInt64) : ∃ xa',
    erase xa index = some (map index, xa') ∧ xa'.Represents (Function.update map index none) := by
  unfold erase
  by_cases outside : xa.capacity ≤ index
  · have nothing := represents.outside outside
    refine ⟨xa, ?_, ?_⟩
    · rw [if_pos outside, nothing]
    · rw [← nothing, Function.update_eq_self]
      exact represents
  · have inside := UInt64.not_le.mp outside
    obtain ⟨xa', written, -, updated⟩ := write_represents represents inside none
    refine ⟨xa', ?_, updated⟩
    rw [if_neg outside]
    simp [represents.slot inside, written]

/-- The loop of `xa_alloc` ends at an index that is free or behind the limit. -/
theorem freeIndex_ends (represents : xa.Represents map) (max : UInt64) {turns : Nat}
    {index : UInt64} (positive : 0 < turns) (enough : xa.capacity.toNat < turns + index.toNat) :
    ∃ free, xa.freeIndex max turns index = some free ∧ index ≤ free ∧
      (free ≤ max → map free = none) := by
  induction turns generalizing index with
  | zero => omega
  | succ turns ih =>
    rw [freeIndex]
    by_cases inside : index ≤ max
    · rw [if_pos inside, load_eq represents]
      simp only [Option.bind_eq_bind, Option.bind_some]
      cases held : map index with
      | none =>
        rw [if_neg (by simp)]
        exact ⟨index, rfl, UInt64.le_refl index, fun _ => held⟩
      | some entry =>
        rw [if_pos (by simp)]
        have short : index < xa.capacity := by
          by_contra outside
          rw [represents.outside (UInt64.not_lt.mp outside)] at held
          cases held
        have short := UInt64.lt_iff_toNat_lt.mp short
        have small := represents.small
        have next : (index + 1).toNat = index.toNat + 1 := by
          rw [UInt64.toNat_add]
          exact Nat.mod_eq_of_lt (by simp only [UInt64.reduceToNat]; omega)
        obtain ⟨free, ends, least, empty⟩ := ih (by omega) (by rw [next]; omega)
        refine ⟨free, ends, ?_, empty⟩
        rw [UInt64.le_iff_toNat_le] at least ⊢
        omega
    · rw [if_neg inside]
      exact ⟨index, rfl, UInt64.le_refl index, fun within => absurd within inside⟩

/-- `xa_alloc` returns a free index in its range and changes the map there, or fails and changes
nothing. -/
theorem alloc_represents (represents : xa.Represents map) (fresh : Option (Nat → Option Entry))
    (entry : Option Entry) (min max : UInt64) : ∃ ret xa',
      alloc fresh xa entry min max = some (ret, xa') ∧
        ((∃ id, ret = some id ∧ min ≤ id ∧ id ≤ max ∧ map id = none ∧
          xa'.Represents (Function.update map id entry)) ∨ ret = none ∧ xa' = xa) := by
  obtain ⟨free, ends, least, empty⟩ := @freeIndex_ends _ _ _ represents max _
    (if xa.next < min then min else xa.next) (Nat.succ_pos xa.capacity.toNat) (by omega)
  by_cases past : free > max
  · refine ⟨none, xa, ?_, .inr ⟨rfl, rfl⟩⟩
    simp [alloc, ends, past]
  · have within := UInt64.not_lt.mp past
    obtain ⟨ret, xa₁, made, kept, -, room | failed⟩ :=
      ensureCapacity_represents represents fresh free
    · obtain ⟨rfl, inside, -⟩ := room
      obtain ⟨xa₂, written, -, updated⟩ := write_represents kept inside entry
      refine ⟨some free, { xa₂ with next := free + 1 }, ?_, .inl ⟨free, rfl, ?_, within,
        empty within, ⟨updated.length, updated.small, updated.holds⟩⟩⟩
      · simp [alloc, ends, past, made, written]
      · refine UInt64.le_trans ?_ least
        split
        · exact UInt64.le_refl min
        · rename_i above
          exact UInt64.not_lt.mp above
    · obtain ⟨rfl, rfl⟩ := failed
      refine ⟨none, xa₁, ?_, .inr ⟨rfl, rfl⟩⟩
      simp [alloc, ends, past, made]

/-- An operation that changes an array, with what `krealloc` gives. -/
inductive Op (Entry : Type) where
  /-- `xa_store`. -/
  | store (index : UInt64) (entry : Option Entry) (fresh : Option (Nat → Option Entry))
  /-- `xa_erase`. -/
  | erase (index : UInt64)
  /-- `xa_alloc`, with the limits of its range. -/
  | alloc (entry : Option Entry) (min max : UInt64) (fresh : Option (Nat → Option Entry))

/-- What an operation makes of an array and of what has been stored and allocated and not erased. -/
def Op.run (s : Xarray Entry × (UInt64 → Option Entry)) :
    Op Entry → Option (Xarray Entry × (UInt64 → Option Entry))
  | .store index entry fresh => (Xarray.store fresh s.1 index entry).map fun result =>
    (result.2, if result.1.isSome then Function.update s.2 index entry else s.2)
  | .erase index => (Xarray.erase s.1 index).map fun result =>
    (result.2, Function.update s.2 index none)
  | .alloc entry min max fresh => (Xarray.alloc fresh s.1 entry min max).map fun result =>
    (result.2, match result.1 with
      | some id => Function.update s.2 id entry
      | none => s.2)

/-- An empty array stands for the empty map. -/
theorem init_represents : (Xarray.init : Xarray Entry).Represents fun _ => none :=
  ⟨rfl, by simp [init], fun _ => rfl⟩

/-- An operation keeps an array that stands for what has been stored. -/
theorem Op.run_represents {s s' : Xarray Entry × (UInt64 → Option Entry)} (op : Op Entry)
    (represents : s.1.Represents s.2) (ran : op.run s = some s') : s'.1.Represents s'.2 := by
  cases op with
  | store index entry fresh =>
    obtain ⟨ret, xa', stored, outcome⟩ := store_represents represents fresh index entry
    rw [Op.run, stored, Option.map_some, Option.some.injEq] at ran
    subst ran
    obtain ⟨rfl, updated⟩ | ⟨rfl, rfl⟩ := outcome
    · exact updated
    · exact represents
  | erase index =>
    obtain ⟨xa', erased, updated⟩ := erase_represents represents index
    rw [Op.run, erased, Option.map_some, Option.some.injEq] at ran
    subst ran
    exact updated
  | alloc entry min max fresh =>
    obtain ⟨ret, xa', allocated, outcome⟩ := alloc_represents represents fresh entry min max
    rw [Op.run, allocated, Option.map_some, Option.some.injEq] at ran
    subst ran
    obtain ⟨id, rfl, -, -, -, updated⟩ | ⟨rfl, rfl⟩ := outcome
    · exact updated
    · exact represents

end Xarray

end Lcompat

import Lcompat.Xarray
import Lcompat.Errno

/-!
# Numbers for pointers

`idr.h` keeps pointers at small numbers in an array that grows to the limit of an allocation.
`idr_alloc` takes the lowest free number between its two bounds. Where the upper bound is not above
the lower one, it only looks at the lower one: then a number may be free and not found, and a number
may be given that is not below the upper bound.
-/

namespace Lcompat

open Lcompat.Logic

/-- `struct idr`, with the pointers at `slots`; null is an empty array. -/
structure Idr (Ptr : Type) where
  /-- `slots`. -/
  slots : List (Option Ptr)
  /-- `size`. -/
  size : Int32

namespace Idr

variable {Ptr : Type}

/-- `INT_MAX`. -/
def INT_MAX : Int32 := 0x7fffffff

/-- `idr_init`. -/
def init : Idr Ptr := ⟨[], 0⟩

/-- The place of a number in the array. -/
def place (id : Int32) : Nat := id.toInt.toNat

/-- The limit up to which `idr_alloc` looks. An overflow has no defined behaviour. -/
def limitOf (start end_ : Int32) : Option Int32 :=
  if end_ > start then some end_ else if start = INT_MAX then none else some (start + 1)

/-- The last loop of `idr_alloc`, from a number on, for as many numbers as there are before the
limit: the number whose slot is empty, if there is one. -/
def freeFrom (slots : List (Option Ptr)) : Nat → Int32 → Option (Option Int32)
  | 0, _ => some none
  | count + 1, i => do
    let entry ← if i < 0 then none else slots[place i]?
    if entry.isNone then return some i else freeFrom slots count (i + 1)

/-- The growth of the array to the limit of an allocation in `idr_alloc`, if there is memory. -/
def grow (fresh : Option (Nat → Option Ptr)) (idr : Idr Ptr) (limit : Int32) :
    Option (Idr Ptr) :=
  if limit > idr.size then
    (Xarray.krealloc idr.slots (place limit) fresh).map fun slots =>
      ⟨Xarray.clearFrom slots (place idr.size), limit⟩
  else some idr

/-- `idr_alloc`, with the contents of the memory that `krealloc` gives, if it does: the number or an
error, and the array. -/
def alloc (fresh : Option (Nat → Option Ptr)) (idr : Idr Ptr) (ptr : Option Ptr)
    (start end_ : Int32) : Option (Int × Idr Ptr) := do
  let limit ← limitOf start end_
  match grow fresh idr limit with
  | none => return (-ENOMEM, idr)
  | some idr =>
    match ← freeFrom idr.slots (limit.toInt - start.toInt).toNat start with
    | none => return (-ENOSPC, idr)
    | some id => return (id.toInt, { idr with slots := idr.slots.set (place id) ptr })

/-- `idr_remove`: the pointer, and the array. -/
def remove (idr : Idr Ptr) (id : Int32) : Option (Option Ptr × Idr Ptr) :=
  if id < 0 ∨ id ≥ idr.size ∨ idr.slots.isEmpty then some (none, idr)
  else do
    let ptr ← idr.slots[place id]?
    return (ptr, { idr with slots := idr.slots.set (place id) none })

/-- `idr_find`. -/
def find (idr : Idr Ptr) (id : Int32) : Option (Option Ptr) :=
  if id < 0 ∨ id ≥ idr.size ∨ idr.slots.isEmpty then some none else idr.slots[place id]?

/-- An array stands for a map from numbers to pointers. -/
structure Represents (idr : Idr Ptr) (map : Int32 → Option Ptr) : Prop where
  /-- There is memory for the slots. -/
  length : (idr.slots.length : Int) = idr.size.toInt
  /-- The slots hold the map. -/
  holds : ∀ id : Int32, 0 ≤ id.toInt → (idr.slots[place id]?).join = map id
  /-- Negative numbers have no pointers. -/
  negative : ∀ id : Int32, id.toInt < 0 → map id = none

/-- A number is one that an allocation may give: free, not below one bound, and below the other if
that is positive. -/
def Allocatable (map : Int32 → Option Ptr) (start end_ id : Int32) : Prop :=
  start ≤ id ∧ (0 < end_ → id < end_) ∧ map id = none

/-- The least number that an allocation may give. -/
def Lowest (map : Int32 → Option Ptr) (start end_ id : Int32) : Prop :=
  Allocatable map start end_ id ∧ ∀ other, Allocatable map start end_ other → id ≤ other

section Numbers

/-- Places of numbers that are not negative are apart. -/
theorem place_inj {id other : Int32} (id_nonneg : 0 ≤ id.toInt) (other_nonneg : 0 ≤ other.toInt)
    (same : place id = place other) : id = other := by
  unfold place at same
  exact Int32.toInt.inj (by omega)

/-- The place of a number that is not negative. -/
theorem place_cast (id : Int32) (nonneg : 0 ≤ id.toInt) : (place id : Int) = id.toInt :=
  Int.toNat_of_nonneg nonneg

/-- The next number, before the last one. -/
theorem toInt_next (id : Int32) (below : id.toInt < 2 ^ 31 - 1) :
    (id + 1).toInt = id.toInt + 1 := by
  have least := id.le_toInt
  rw [Int32.toInt_add]
  exact Int.bmod_eq_of_le (by simp; omega) (by simp; omega)

end Numbers

variable {idr : Idr Ptr} {map : Int32 → Option Ptr}

/-- A slot inside the array is there. -/
theorem Represents.slot (represents : idr.Represents map) {id : Int32} (nonneg : 0 ≤ id.toInt)
    (inside : id.toInt < idr.size.toInt) : idr.slots[place id]? = some (map id) := by
  have bound : place id < idr.slots.length := by
    have length := represents.length
    have here := place_cast id nonneg
    omega
  have held := represents.holds id nonneg
  rw [List.getElem?_eq_getElem bound, Option.join_some] at held
  rw [List.getElem?_eq_getElem bound, held]

/-- There is nothing outside the array. -/
theorem Represents.outside (represents : idr.Represents map) {id : Int32}
    (outside : id.toInt < 0 ∨ idr.size.toInt ≤ id.toInt) : map id = none := by
  by_cases nonneg : 0 ≤ id.toInt
  · have bound : idr.slots.length ≤ place id := by
      have length := represents.length
      have here := place_cast id nonneg
      omega
    rw [← represents.holds id nonneg, List.getElem?_eq_none bound, Option.join_none]
  · exact represents.negative id (by omega)

/-- The test of `idr_remove` and `idr_find`. -/
theorem outside_iff (represents : idr.Represents map) {id : Int32} :
    (id < 0 ∨ id ≥ idr.size ∨ idr.slots.isEmpty) ↔
      id.toInt < 0 ∨ idr.size.toInt ≤ id.toInt := by
  have length := represents.length
  rw [Int32.lt_iff_toInt_lt, ge_iff_le, Int32.le_iff_toInt_le, Int32.toInt_zero,
    List.isEmpty_iff_length_eq_zero]
  omega

/-- `idr_find` reads the map. -/
theorem find_eq (represents : idr.Represents map) (id : Int32) : idr.find id = some (map id) := by
  unfold find
  by_cases outside : id < 0 ∨ id ≥ idr.size ∨ idr.slots.isEmpty
  · rw [if_pos outside, represents.outside ((outside_iff represents).mp outside)]
  · rw [if_neg outside]
    rw [outside_iff represents] at outside
    exact represents.slot (by omega) (by omega)

/-- A slot that is written changes the map at one number. -/
theorem Represents.set (represents : idr.Represents map) {id : Int32} (nonneg : 0 ≤ id.toInt)
    (inside : id.toInt < idr.size.toInt) (ptr : Option Ptr) :
    ({ idr with slots := idr.slots.set (place id) ptr } : Idr Ptr).Represents
      (Function.update map id ptr) := by
  have bound : place id < idr.slots.length := by
    have length := represents.length
    have here := place_cast id nonneg
    omega
  refine ⟨?_, fun other other_nonneg => ?_, fun other negative => ?_⟩
  · rw [List.length_set]
    exact represents.length
  · by_cases same : other = id
    · subst same
      simp [bound]
    · have apart : place id ≠ place other := fun equal =>
        same (place_inj nonneg other_nonneg equal).symm
      rw [Function.update_of_ne same, List.getElem?_set_ne apart]
      exact represents.holds other other_nonneg
  · have apart : other ≠ id := by
      rintro rfl
      omega
    rw [Function.update_of_ne apart]
    exact represents.negative other negative

/-- `idr_remove` returns the pointer and takes it out of the map. -/
theorem remove_represents (represents : idr.Represents map) (id : Int32) : ∃ idr',
    idr.remove id = some (map id, idr') ∧ idr'.Represents (Function.update map id none) := by
  unfold remove
  by_cases outside : id < 0 ∨ id ≥ idr.size ∨ idr.slots.isEmpty
  · have nothing := represents.outside ((outside_iff represents).mp outside)
    refine ⟨idr, ?_, ?_⟩
    · rw [if_pos outside, nothing]
    · rw [← nothing, Function.update_eq_self]
      exact represents
  · rw [if_neg outside]
    rw [outside_iff represents] at outside
    refine ⟨_, ?_, represents.set (by omega) (by omega) none⟩
    rw [represents.slot (by omega) (by omega)]
    rfl

/-- The last loop of `idr_alloc` stops at the lowest free number before its limit. -/
theorem freeFrom_eq (represents : idr.Represents map) (count : Nat) {start : Int32}
    (nonneg : 0 ≤ start.toInt) (inside : start.toInt + count ≤ idr.size.toInt) :
    ∃ found, freeFrom idr.slots count start = some found ∧
      match found with
      | none => ∀ id : Int32, start ≤ id → id.toInt < start.toInt + count → map id ≠ none
      | some id => start ≤ id ∧ id.toInt < start.toInt + count ∧ map id = none ∧
        ∀ other, start ≤ other → map other = none → id ≤ other := by
  induction count generalizing start with
  | zero =>
    refine ⟨none, rfl, fun id above below => ?_⟩
    rw [Int32.le_iff_toInt_le] at above
    omega
  | succ count ih =>
    have most := idr.size.toInt_lt
    have next := toInt_next start (by omega)
    have slot := represents.slot nonneg (by omega)
    have positive : ¬start < 0 := by
      rw [Int32.lt_iff_toInt_lt, Int32.toInt_zero]
      omega
    rw [freeFrom, if_neg positive, slot]
    simp only [Option.bind_eq_bind, Option.bind_some]
    cases here : map start with
    | none =>
      refine ⟨some start, rfl, Int32.le_refl start, by omega, here, fun other above _ => above⟩
    | some ptr =>
      obtain ⟨found, ends, result⟩ := @ih (start + 1) (by omega) (by omega)
      -- a number from `start` on that is not `start` is from the next one on
      have later : ∀ id : Int32, start ≤ id → map id = none → start + 1 ≤ id := by
        intro id above free
        have apart : id ≠ start := by
          rintro rfl
          simp [here] at free
        have apart : id.toInt ≠ start.toInt := fun same => apart (Int32.toInt.inj same)
        rw [Int32.le_iff_toInt_le] at above ⊢
        omega
      refine ⟨found, ends, ?_⟩
      cases found with
      | none =>
        intro id above below free
        exact result id (later id above free) (by omega) free
      | some id =>
        obtain ⟨above, below, free, least⟩ := result
        refine ⟨?_, by omega, free, fun other above free =>
          least other (later other above free) free⟩
        rw [Int32.le_iff_toInt_le] at above ⊢
        omega

/-- With memory, the array grows to the limit and keeps the map. -/
theorem grow_represents (represents : idr.Represents map) (fresh : Nat → Option Ptr)
    (limit : Int32) (nonneg : 0 ≤ limit.toInt) : ∃ idr',
      grow (some fresh) idr limit = some idr' ∧ idr'.Represents map ∧
        limit.toInt ≤ idr'.size.toInt := by
  unfold grow
  by_cases short : limit > idr.size
  · rw [if_pos short]
    rw [gt_iff_lt, Int32.lt_iff_toInt_lt] at short
    have length := represents.length
    have size_cast := place_cast idr.size (by omega)
    have limit_cast := place_cast limit nonneg
    have old : idr.slots.length = place idr.size := by omega
    have kept : idr.slots.take (place limit) = idr.slots := List.take_of_length_le (by omega)
    refine ⟨_, rfl, ⟨?_, fun id id_nonneg => ?_, represents.negative⟩, Int.le_refl _⟩
    · show ((Xarray.clearFrom _ (place idr.size)).length : Int) = limit.toInt
      simp only [kept, Xarray.clearFrom, List.length_append, List.length_take, List.length_map,
        List.length_range, List.length_replicate]
      omega
    · rw [kept, Xarray.join_clearFrom old]
      exact represents.holds id id_nonneg
  · rw [if_neg short]
    rw [gt_iff_lt, Int32.lt_iff_toInt_lt] at short
    exact ⟨idr, rfl, represents, by omega⟩

/-- The limit is above the lower bound. -/
theorem lt_of_limitOf {start end_ limit : Int32} (limited : limitOf start end_ = some limit) :
    start.toInt < limit.toInt := by
  unfold limitOf at limited
  split at limited
  · rename_i past
    obtain rfl := Option.some.inj limited
    exact Int32.lt_iff_toInt_lt.mp past
  · split at limited
    · cases limited
    · rename_i small
      obtain rfl := Option.some.inj limited
      have apart : start.toInt ≠ INT_MAX.toInt := fun same => small (Int32.toInt.inj same)
      have most := start.toInt_lt
      have last : INT_MAX.toInt = 2 ^ 31 - 1 := rfl
      rw [toInt_next start (by omega)]
      omega

/-- With memory, `idr_alloc` gives the lowest free number between the lower bound and its limit, or
an error if there is none. -/
theorem alloc_represents (represents : idr.Represents map) (fresh : Nat → Option Ptr) (ptr : Ptr)
    {start end_ limit : Int32} (nonneg : 0 ≤ start.toInt)
    (limited : limitOf start end_ = some limit) : ∃ ret idr',
      idr.alloc (some fresh) (some ptr) start end_ = some (ret, idr') ∧
      ((∃ id : Int32, ret = id.toInt ∧ start ≤ id ∧ id < limit ∧ map id = none ∧
          (∀ other, start ≤ other → map other = none → id ≤ other) ∧
          idr'.Represents (Function.update map id (some ptr))) ∨
        ret = -ENOSPC ∧ (∀ id, start ≤ id → id < limit → map id ≠ none) ∧
          idr'.Represents map) := by
  have above := lt_of_limitOf limited
  obtain ⟨idr₁, grown, kept, room⟩ := grow_represents represents fresh limit (by omega)
  have count : ((limit.toInt - start.toInt).toNat : Int) = limit.toInt - start.toInt :=
    Int.toNat_of_nonneg (by omega)
  obtain ⟨found, ends, result⟩ := freeFrom_eq kept (limit.toInt - start.toInt).toNat nonneg
    (by omega)
  have unfolded : idr.alloc (some fresh) (some ptr) start end_ = some (match found with
      | none => (-ENOSPC, idr₁)
      | some id => (id.toInt, { idr₁ with slots := idr₁.slots.set (place id) (some ptr) })) := by
    simp only [alloc, limited, Option.bind_eq_bind, Option.bind_some, grown, ends]
    cases found <;> rfl
  cases found with
  | none =>
    refine ⟨_, _, unfolded, .inr ⟨rfl, fun id least below => ?_, kept⟩⟩
    rw [Int32.lt_iff_toInt_lt] at below
    exact result id least (by omega)
  | some id =>
    obtain ⟨least, below, free, lowest⟩ := result
    have id_nonneg : 0 ≤ id.toInt := by
      rw [Int32.le_iff_toInt_le] at least
      omega
    refine ⟨_, _, unfolded, .inl ⟨id, rfl, least, ?_, free, lowest, ?_⟩⟩
    · rw [Int32.lt_iff_toInt_lt]
      omega
    · exact kept.set id_nonneg (by omega) (some ptr)

/-- A call, with the contents of the memory that `krealloc` gives. -/
inductive Op (Ptr : Type) where
  /-- `idr_alloc`. -/
  | alloc (ptr : Ptr) (start end_ : Int32) (fresh : Nat → Option Ptr)
  /-- `idr_remove`. -/
  | remove (id : Int32)

/-- What a call makes of an array and of what has been allocated and not removed. The lower bound of
an allocation is not negative. -/
def Op.run (s : Idr Ptr × (Int32 → Option Ptr)) :
    Op Ptr → Option (Idr Ptr × (Int32 → Option Ptr))
  | .alloc ptr start end_ fresh =>
    if start < 0 then none
    else (s.1.alloc (some fresh) (some ptr) start end_).map fun result => (result.2,
      if result.1 < 0 then s.2 else Function.update s.2 (Int32.ofInt result.1) (some ptr))
  | .remove id => (s.1.remove id).map fun result => (result.2, Function.update s.2 id none)

/-- The runs of an array with memory always available. -/
def idrs (Ptr : Type) : System (Idr Ptr × (Int32 → Option Ptr)) (Op Ptr) where
  init s := s = (Idr.init, fun _ => none)
  step := Op.run

/-- An allocation gives the lowest number that it may give and changes the map there, or fails with
`-ENOSPC` because there is none, and leaves the map. -/
def AllocatesLowest (s : Idr Ptr × (Int32 → Option Ptr)) : Op Ptr → Prop
  | .alloc ptr start end_ fresh => 0 ≤ start → ∃ ret idr',
    s.1.alloc (some fresh) (some ptr) start end_ = some (ret, idr') ∧
      ((∃ id : Int32, ret = id.toInt ∧ Lowest s.2 start end_ id ∧
          ∀ other, idr'.find other = some (Function.update s.2 id (some ptr) other)) ∨
        ret = -ENOSPC ∧ (∀ id, ¬Allocatable s.2 start end_ id) ∧
          ∀ other, idr'.find other = some (s.2 other))
  | .remove _ => True

/-- The upper bound of an allocation is above its lower bound; or there is none, and the lower bound
is free and not `INT_MAX`; or it is positive and not above the lower bound, which is in use. -/
def Bounded (s : Idr Ptr × (Int32 → Option Ptr)) : Op Ptr → Prop
  | .alloc _ start end_ _ => 0 ≤ start → start < end_ ∨
    end_ ≤ 0 ∧ start ≠ INT_MAX ∧ s.2 start = none ∨ 0 < end_ ∧ end_ ≤ start ∧ s.2 start ≠ none
  | .remove _ => True

/-- `INT_MAX` is never in use. -/
theorem Represents.last (represents : idr.Represents map) : map INT_MAX = none := by
  have most := idr.size.toInt_lt
  have last : INT_MAX.toInt = 2 ^ 31 - 1 := rfl
  exact represents.outside (.inr (by omega))

/-- Without an upper bound above the lower one, only the lower one is below the limit. -/
theorem eq_of_limitOf {start end_ limit id : Int32} (limited : limitOf start end_ = some limit)
    (short : ¬start < end_) (least : start ≤ id) (below : id < limit) : id = start := by
  unfold limitOf at limited
  rw [if_neg short] at limited
  split at limited
  · cases limited
  · rename_i small
    obtain rfl := Option.some.inj limited
    have apart : start.toInt ≠ INT_MAX.toInt := fun same => small (Int32.toInt.inj same)
    have most := start.toInt_lt
    have last : INT_MAX.toInt = 2 ^ 31 - 1 := rfl
    have next := toInt_next start (by omega)
    rw [Int32.lt_iff_toInt_lt] at below
    rw [Int32.le_iff_toInt_le] at least
    exact Int32.toInt.inj (by omega)

/-- Below the limit there is no overflow. -/
theorem limitOf_eq_none_iff {start end_ : Int32} :
    limitOf start end_ = none ↔ ¬start < end_ ∧ start = INT_MAX := by
  unfold limitOf
  split
  · rename_i past
    exact iff_of_false (by simp) fun both => both.1 past
  · rename_i short
    split
    · rename_i last
      exact iff_of_true rfl ⟨short, last⟩
    · rename_i small
      exact iff_of_false (by simp) fun both => small both.2

/-- With an upper bound above the lower one, an allocation gives the lowest number. -/
theorem allocates_of_lt (represents : idr.Represents map) (fresh : Nat → Option Ptr) (ptr : Ptr)
    {start end_ : Int32} (nonneg : 0 ≤ start.toInt) (past : start < end_) : ∃ ret idr',
      idr.alloc (some fresh) (some ptr) start end_ = some (ret, idr') ∧
      ((∃ id : Int32, ret = id.toInt ∧ Lowest map start end_ id ∧
          ∀ other, idr'.find other = some (Function.update map id (some ptr) other)) ∨
        ret = -ENOSPC ∧ (∀ id, ¬Allocatable map start end_ id) ∧
          ∀ other, idr'.find other = some (map other)) := by
  have limited : limitOf start end_ = some end_ := if_pos past
  have bounded : 0 < end_ := by
    rw [Int32.lt_iff_toInt_lt] at past ⊢
    rw [Int32.toInt_zero]
    omega
  obtain ⟨ret, idr', made, outcome⟩ := alloc_represents represents fresh ptr nonneg limited
  refine ⟨ret, idr', made, ?_⟩
  rcases outcome with ⟨id, rfl, least, below, free, lowest, updated⟩ | ⟨rfl, full, kept⟩
  · have lowest : Lowest map start end_ id :=
      ⟨⟨least, fun _ => below, free⟩, fun other may => lowest other may.1 may.2.2⟩
    exact .inl ⟨id, rfl, lowest, find_eq updated⟩
  · exact .inr ⟨rfl, fun id may => full id may.1 (may.2.1 bounded) may.2.2, find_eq kept⟩

/-- With an upper bound that is not above the lower one, an allocation gives the lower bound or
nothing, which is right if the lower bound is free and there is no upper bound, or if it is in use
and there is one. -/
theorem allocates_iff_of_not_lt (represents : idr.Represents map) (fresh : Nat → Option Ptr)
    (ptr : Ptr) {start end_ limit : Int32} (nonneg : 0 ≤ start.toInt)
    (limited : limitOf start end_ = some limit) (short : ¬start < end_) :
    (∃ ret idr', idr.alloc (some fresh) (some ptr) start end_ = some (ret, idr') ∧
      ((∃ id : Int32, ret = id.toInt ∧ Lowest map start end_ id ∧
          ∀ other, idr'.find other = some (Function.update map id (some ptr) other)) ∨
        ret = -ENOSPC ∧ (∀ id, ¬Allocatable map start end_ id) ∧
          ∀ other, idr'.find other = some (map other))) ↔
      end_ ≤ 0 ∧ start ≠ INT_MAX ∧ map start = none ∨
        0 < end_ ∧ end_ ≤ start ∧ map start ≠ none := by
  have above := lt_of_limitOf limited
  have small : start ≠ INT_MAX := fun last => by
    rw [limitOf_eq_none_iff.mpr ⟨short, last⟩] at limited
    cases limited
  have ordered : end_ ≤ start := by
    rw [Int32.lt_iff_toInt_lt] at short
    rw [Int32.le_iff_toInt_le]
    omega
  have sign : end_ ≤ 0 ↔ ¬0 < end_ := by
    rw [Int32.le_iff_toInt_le, Int32.lt_iff_toInt_lt]
    omega
  -- no number is below an upper bound that is not above the lower one
  have outside : ∀ id, start ≤ id → ¬id < end_ := by
    intro id least
    rw [Int32.le_iff_toInt_le] at least
    rw [Int32.lt_iff_toInt_lt] at short ⊢
    omega
  obtain ⟨ret, idr', made, outcome⟩ := alloc_represents represents fresh ptr nonneg limited
  rw [made]
  rcases outcome with ⟨id, rfl, least, below, free, lowest, updated⟩ | ⟨rfl, full, kept⟩
  · obtain rfl := eq_of_limitOf limited short least below
    have only : (∃ other : Int32, id.toInt = other.toInt ∧ Lowest map id end_ other ∧
        ∀ n, idr'.find n = some (Function.update map other (some ptr) n)) ↔ end_ ≤ 0 := by
      rw [sign]
      constructor
      · rintro ⟨other, same, ⟨⟨_, bound, _⟩, _⟩, _⟩ positive
        obtain rfl := Int32.toInt.inj same
        exact outside _ least (bound positive)
      · intro unbounded
        exact ⟨id, rfl, ⟨⟨least, fun positive => absurd positive unbounded, free⟩,
          fun other may => may.1⟩, find_eq updated⟩
    have given : id.toInt ≠ -ENOSPC := by
      unfold ENOSPC
      omega
    simp [only, given, free, small]
  · have occupied : map start ≠ none :=
      full start (Int32.le_refl start) (Int32.lt_iff_toInt_lt.mpr above)
    have refused : ∀ id : Int32, -ENOSPC = id.toInt → ¬Lowest map start end_ id := by
      rintro id error ⟨⟨least, -⟩, -⟩
      rw [Int32.le_iff_toInt_le] at least
      unfold ENOSPC at error
      omega
    have nobody : (∀ id, ¬Allocatable map start end_ id) ↔ 0 < end_ := by
      constructor
      · intro nobody
        by_contra unbounded
        have least : start ≤ INT_MAX := by
          rw [Int32.le_iff_toInt_le]
          have most := start.toInt_lt
          have last : INT_MAX.toInt = 2 ^ 31 - 1 := rfl
          omega
        exact nobody INT_MAX ⟨least, fun positive => absurd positive unbounded, represents.last⟩
      · rintro positive id ⟨least, bound, -⟩
        exact outside id least (bound positive)
    constructor
    · rintro ⟨ret, idr'', made', outcome⟩
      obtain ⟨rfl, rfl⟩ := Prod.mk.inj (Option.some.inj made')
      rcases outcome with ⟨id, error, lowest, -⟩ | ⟨-, empty, -⟩
      · exact absurd lowest (refused id error)
      · exact .inr ⟨nobody.mp empty, ordered, occupied⟩
    · rintro (⟨-, -, free⟩ | ⟨positive, -, -⟩)
      · exact absurd free occupied
      · exact ⟨_, _, rfl, .inr ⟨rfl, nobody.mpr positive, find_eq kept⟩⟩

/-- An allocation gives the lowest number exactly if its bounds are as they should be. -/
theorem allocatesLowest_iff {s : Idr Ptr × (Int32 → Option Ptr)} (op : Op Ptr)
    (represents : s.1.Represents s.2) : AllocatesLowest s op ↔ Bounded s op := by
  cases op with
  | remove id => exact Iff.rfl
  | alloc ptr start end_ fresh =>
    unfold AllocatesLowest Bounded
    refine imp_congr_right fun positive => ?_
    have nonneg : 0 ≤ start.toInt := Int32.le_iff_toInt_le.mp positive
    cases limited : limitOf start end_ with
    | none =>
      obtain ⟨short, rfl⟩ := limitOf_eq_none_iff.mp limited
      have undefined : s.1.alloc (some fresh) (some ptr) INT_MAX end_ = none := by
        simp [alloc, limited]
      have free := represents.last
      simp [undefined, short, free]
    | some limit =>
      by_cases past : start < end_
      · have limit_eq : end_ = limit := by simpa [limitOf, past] using limited
        subst limit_eq
        exact iff_of_true (allocates_of_lt represents fresh ptr nonneg past) (.inl past)
      · rw [allocates_iff_of_not_lt represents fresh ptr nonneg limited past]
        exact (or_iff_right past).symm

/-- A call keeps an array that stands for what has been allocated and not removed. -/
theorem Op.run_represents {s s' : Idr Ptr × (Int32 → Option Ptr)} (op : Op Ptr)
    (represents : s.1.Represents s.2) (ran : op.run s = some s') : s'.1.Represents s'.2 := by
  cases op with
  | remove id =>
    obtain ⟨idr', removed, updated⟩ := remove_represents represents id
    rw [Op.run, removed, Option.map_some, Option.some.injEq] at ran
    subst ran
    exact updated
  | alloc ptr start end_ fresh =>
    rw [Op.run] at ran
    split at ran
    · cases ran
    · rename_i positive
      have nonneg : 0 ≤ start.toInt := by
        rw [Int32.lt_iff_toInt_lt, Int32.toInt_zero] at positive
        omega
      cases limited : limitOf start end_ with
      | none => simp [Idr.alloc, limited] at ran
      | some limit =>
        obtain ⟨ret, idr', made, outcome⟩ := alloc_represents represents fresh ptr nonneg limited
        rw [made, Option.map_some, Option.some.injEq] at ran
        subst ran
        rcases outcome with ⟨id, rfl, least, -, -, -, updated⟩ | ⟨rfl, -, kept⟩
        · rw [Int32.le_iff_toInt_le] at least
          have given : ¬id.toInt < 0 := by omega
          simpa [given] using updated
        · exact kept

/-- In every run an array is the map of what has been allocated and not removed: it is found, and a
removal returns the pointer and takes it out. Allocations give the lowest number, and fail only
when there is none, if and only if their bounds are as they should be. -/
theorem idr_is_map_lowest_iff (Ptr : Type) :
    (∀ s, (idrs Ptr).Reachable s → (∀ id, s.1.find id = some (s.2 id)) ∧
      ∀ id, ∃ idr', s.1.remove id = some (s.2 id, idr') ∧
        ∀ other, idr'.find other = some (Function.update s.2 id none other)) ∧
    ∀ ops, (idrs Ptr).Along AllocatesLowest (Idr.init, fun _ => none) ops ↔
      (idrs Ptr).Along Bounded (Idr.init, fun _ => none) ops := by
  have empty : (Idr.init : Idr Ptr).Represents fun _ => none :=
    ⟨rfl, fun _ _ => rfl, fun _ _ => rfl⟩
  constructor
  · intro s reach
    have represents : s.1.Represents s.2 := by
      refine reach.invariant (fun s => s.1.Represents s.2) ?_ ?_
      · rintro _ rfl
        exact empty
      · exact fun s op s' represents _ ran => op.run_represents represents ran
    refine ⟨find_eq represents, fun id => ?_⟩
    obtain ⟨idr', removed, updated⟩ := remove_represents represents id
    exact ⟨idr', removed, find_eq updated⟩
  · intro ops
    refine System.along_iff_along (fun s op (represents : s.1.Represents s.2) =>
      allocatesLowest_iff op represents) ?_ empty
    exact fun s op s' represents ran => op.run_represents represents ran

/-- Without an upper bound, the second number is not found. -/
theorem unlimited_not_lowest :
    ¬∀ s, (idrs Nat).Reachable s → ∀ op, AllocatesLowest s op := by
  intro always
  have ran : ((idrs Nat).run (Idr.init, fun _ => none) [.alloc 7 0 0 fun _ => none]).map (fun s =>
      (s.2 1, (s.1.alloc (some fun _ => none) (some 8) 0 0).map Prod.fst)) =
        some (none, some (-ENOSPC)) := by
    decide +kernel
  obtain ⟨s, ran, found⟩ := Option.map_eq_some_iff.mp ran
  obtain ⟨unused, result⟩ := Prod.mk.inj found
  obtain ⟨⟨_, idr'⟩, made, rfl⟩ := Option.map_eq_some_iff.mp result
  obtain ⟨ret, idr'', made', outcome⟩ :=
    always s (System.reachable_of_run rfl ran) (.alloc 8 0 0 fun _ => none) (by decide)
  obtain ⟨rfl, rfl⟩ := Prod.mk.inj (Option.some.inj (made.symm.trans made'))
  rcases outcome with ⟨id, same, ⟨⟨least, -⟩, -⟩, -⟩ | ⟨-, full, -⟩
  · rw [Int32.le_iff_toInt_le, Int32.toInt_zero] at least
    unfold ENOSPC at same
    omega
  · exact full 1 ⟨by decide, by decide, unused⟩

end Idr

end Lcompat

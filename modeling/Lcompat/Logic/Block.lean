import Mathlib

/-!
# Blocks of memory

A block is allocated with some cells of one type, and nothing can be stored outside of them. A loop
that fills a block keeps what it has stored in front of cells that are still as they were allocated.
What has been allocated and freed is kept in a trace.
-/

namespace Lcompat.Logic

universe u

/-- A block of memory, with its number and its cells. -/
structure Block (Cell : Type u) where
  /-- The number. -/
  id : Nat
  /-- The cells. -/
  cells : List Cell
  deriving DecidableEq

/-- A block is allocated or freed. -/
inductive BlockEvent where
  /-- A block is allocated. -/
  | alloc (id : Nat)
  /-- A block is freed. -/
  | free (id : Nat)
  deriving DecidableEq

/-- The events of blocks that are allocated and then freed in the opposite order, newest first. -/
def returned (ids : List Nat) : List BlockEvent := ids.map .free ++ (ids.map .alloc).reverse

namespace Block

variable {Cell : Type u} {block block' : Block Cell} {stored : List Cell} {rest : Nat}
  {zero value : Cell}

/-- A block that has just been allocated. -/
def zeroed (id count : Nat) (zero : Cell) : Block Cell := ⟨id, List.replicate count zero⟩

/-- Store into a cell, unless it is outside. -/
def store (block : Block Cell) (i : Nat) (value : Cell) : Option (Block Cell) :=
  if i < block.cells.length then some { block with cells := block.cells.set i value } else none

/-- Some values have been stored, and this many cells are still as they were allocated. -/
def Filled (block : Block Cell) (stored : List Cell) (rest : Nat) (zero : Cell) : Prop :=
  block.cells = stored ++ List.replicate rest zero

/-- Nothing has been stored in a block that has just been allocated. -/
theorem filled_zeroed (id count : Nat) (zero : Cell) :
    (zeroed id count zero).Filled [] count zero := rfl

/-- The next value is stored behind the others. -/
theorem Filled.store (filled : block.Filled stored (rest + 1) zero) (value : Cell) :
    ∃ block', block.store stored.length value = some block' ∧ block'.id = block.id ∧
      block'.Filled (stored ++ [value]) rest zero := by
  have inside : stored.length < block.cells.length := by
    rw [show block.cells = _ from filled, List.length_append, List.length_replicate]
    omega
  refine ⟨{ block with cells := block.cells.set stored.length value }, if_pos inside, rfl, ?_⟩
  show block.cells.set stored.length value = _
  rw [show block.cells = _ from filled, List.set_append_right stored.length value le_rfl,
    Nat.sub_self, List.replicate_succ, List.set_cons_zero, List.append_assoc, List.singleton_append]

/-- A block is full when no cell is left. -/
theorem Filled.cells_eq (filled : block.Filled stored 0 zero) : block.cells = stored := by
  rw [show block.cells = _ from filled, List.replicate_zero, List.append_nil]

end Block

/-- A block that is allocated and returned is freed exactly once. -/
theorem count_returned {ids : List Nat} (distinct : ids.Nodup) (id : Nat) :
    (returned ids).count (.alloc id) ≤ 1 ∧
      (returned ids).count (.free id) = (returned ids).count (.alloc id) := by
  have freed : (ids.map BlockEvent.free).count (.free id) = ids.count id :=
    List.count_map_of_injective ids BlockEvent.free (fun _ _ same => by injection same) id
  have allocated : (ids.map BlockEvent.alloc).count (.alloc id) = ids.count id :=
    List.count_map_of_injective ids BlockEvent.alloc (fun _ _ same => by injection same) id
  have none : (ids.map BlockEvent.free).count (.alloc id) = 0 :=
    List.count_eq_zero.mpr (by simp)
  have none' : (ids.map BlockEvent.alloc).count (.free id) = 0 :=
    List.count_eq_zero.mpr (by simp)
  have once := List.nodup_iff_count_le_one.mp distinct id
  rw [returned, List.count_append, List.count_append, List.count_reverse, List.count_reverse]
  omega

end Lcompat.Logic

import Lcompat.Logic.System

/-!
# Rings

A ring of slots holds the last entries of a growing list, each at its position modulo the number of
slots. An entry that is appended takes the slot of the entry that is a whole turn older, so nothing
is lost as long as the entries that are still wanted are no more than the slots.
-/

namespace Lcompat.Logic

universe u

variable {α : Type u}

/-- The slots hold the entries of a list from a position on, each at its position modulo their
number. -/
def RingHolds (slots : List α) (count : Nat) (entries : List α) (start : Nat) : Prop :=
  ∀ j, start ≤ j → j < entries.length → slots[j % count]? = entries[j]?

/-- No entries are held by any slots. -/
theorem ringHolds_nil (slots : List α) (count start : Nat) : RingHolds slots count [] start :=
  fun _ _ below => absurd below (Nat.not_lt_zero _)

/-- Two positions that are less than a turn apart have different slots. -/
theorem ring_apart {count i j : Nat} (before : i < j) (near : j < i + count) :
    i % count ≠ j % count := by
  intro same
  have turns := Nat.sub_mod_eq_zero_of_mod_eq same.symm
  have none_left : j - i = 0 := by
    rw [Nat.mod_eq_of_lt (by omega)] at turns
    exact turns
  omega

/-- An entry that is appended is held, and so are the others as long as there is a slot for it. -/
theorem RingHolds.append {slots entries : List α} {count start : Nat}
    (holds : RingHolds slots count entries start) (room : entries.length < start + count)
    (enough : count ≤ slots.length) (entry : α) :
    RingHolds (slots.set (entries.length % count) entry) count (entries ++ [entry]) start := by
  intro j least below
  have positive : 0 < count := by
    by_contra none
    rw [List.length_append, List.length_singleton] at below
    omega
  have slot : entries.length % count < slots.length :=
    Nat.lt_of_lt_of_le (Nat.mod_lt _ positive) enough
  by_cases last : j = entries.length
  · subst last
    rw [List.getElem?_set_self slot, List.getElem?_concat_length]
  · have older : j < entries.length := by
      rw [List.length_append, List.length_singleton] at below
      omega
    rw [List.getElem?_set_ne (ring_apart older (by omega)).symm, List.getElem?_append_left older]
    exact holds j least older

/-- Entries that are no longer wanted need not be held. -/
theorem RingHolds.mono {slots entries : List α} {count start later : Nat}
    (holds : RingHolds slots count entries start) (after : start ≤ later) :
    RingHolds slots count entries later :=
  fun j least below => holds j (Nat.le_trans after least) below

end Lcompat.Logic

import Mathlib

/-!
# Memory that may be partly readable

A memory gives the bytes at the offsets that may be read, and nothing elsewhere, so a program
that reads only what some memory gives stays inside that memory. A memory holds a string of
bytes from an offset on when it gives all of them; reading and writing are described by the
strings that are held.
-/

namespace Lcompat.Logic

/-- The bytes that may be read, by their offsets. -/
abbrev Memory := Nat → Option UInt8

namespace Memory

/-- Read bytes from an offset on, if all of them may be read. -/
def read (memory : Memory) : Nat → Nat → Option (List UInt8)
  | _, 0 => some []
  | start, count + 1 =>
    (memory start).bind fun byte => (read memory (start + 1) count).map (byte :: ·)

/-- Write bytes from an offset on. -/
def write (memory : Memory) (start : Nat) (bytes : List UInt8) : Memory := fun offset =>
  if start ≤ offset ∧ offset < start + bytes.length then bytes[offset - start]? else memory offset

/-- Copy what is at some offset to another one. -/
def copy (memory : Memory) (target source count : Nat) : Memory := fun offset =>
  if target ≤ offset ∧ offset < target + count then memory (source + (offset - target))
  else memory offset

/-- The memory that gives a string of bytes, and nothing else. -/
def ofBytes (bytes : List UInt8) : Memory := fun offset => bytes[offset]?

/-- The memory gives a string of bytes from an offset on. -/
def Holds (memory : Memory) (start : Nat) (bytes : List UInt8) : Prop :=
  memory.read start bytes.length = some bytes

variable {memory : Memory} {start : Nat}

/-- What is read has the length that was asked for. -/
theorem length_of_read {count : Nat} {bytes : List UInt8}
    (found : memory.read start count = some bytes) : bytes.length = count := by
  induction count generalizing start bytes with
  | zero =>
    obtain rfl := Option.some.inj found
    rfl
  | succ count ih =>
    obtain ⟨byte, -, found⟩ := Option.bind_eq_some_iff.mp found
    obtain ⟨rest, behind, rfl⟩ := Option.map_eq_some_iff.mp found
    simp [ih behind]

/-- What is read is held. -/
theorem holds_of_read {count : Nat} {bytes : List UInt8}
    (found : memory.read start count = some bytes) : memory.Holds start bytes := by
  rwa [Holds, length_of_read found]

/-- Nothing is held everywhere. -/
@[simp]
theorem holds_nil : memory.Holds start [] := rfl

/-- Two strings that are written one behind the other are written together. -/
theorem write_write (front back : List UInt8) :
    (memory.write start front).write (start + front.length) back =
      memory.write start (front ++ back) := by
  funext offset
  simp only [write, List.length_append]
  by_cases behind : start + front.length ≤ offset ∧ offset < start + front.length + back.length
  · rw [if_pos behind, if_pos (by omega), List.getElem?_append_right (by omega), Nat.sub_sub]
  · rw [if_neg behind]
    by_cases inside : start ≤ offset ∧ offset < start + front.length
    · rw [if_pos inside, if_pos (by omega), List.getElem?_append_left (by omega)]
    · rw [if_neg inside, if_neg (by omega)]

/-- A string is held when its first byte is given and the others are held behind it. -/
theorem holds_cons {byte : UInt8} {bytes : List UInt8} :
    memory.Holds start (byte :: bytes) ↔
      memory start = some byte ∧ memory.Holds (start + 1) bytes := by
  cases here : memory start with
  | none => simp [Holds, read, here]
  | some found => simp [Holds, read, here, and_comm]

/-- Two strings are held together when the second is held behind the first. -/
@[simp]
theorem holds_append {front back : List UInt8} :
    memory.Holds start (front ++ back) ↔
      memory.Holds start front ∧ memory.Holds (start + front.length) back := by
  induction front generalizing start with
  | nil => simp
  | cons byte front ih =>
    rw [List.cons_append, holds_cons, holds_cons, ih, and_assoc, List.length_cons,
      Nat.add_right_comm, Nat.add_assoc]

/-- A byte of a string that is held is given. -/
theorem Holds.get {bytes : List UInt8} (holds : memory.Holds start bytes) {index : Nat}
    (inside : index < bytes.length) : memory (start + index) = some bytes[index] := by
  induction bytes generalizing start index with
  | nil => simp at inside
  | cons byte bytes ih =>
    obtain ⟨first, rest⟩ := holds_cons.mp holds
    cases index with
    | zero => exact first
    | succ index =>
      have found := ih rest (by simpa using inside)
      rw [Nat.add_assoc, Nat.add_comm 1] at found
      exact found

/-- A string is held when each of its bytes is given. -/
theorem holds_of_get {bytes : List UInt8}
    (given : ∀ index (inside : index < bytes.length), memory (start + index) = some bytes[index]) :
    memory.Holds start bytes := by
  induction bytes generalizing start with
  | nil => rfl
  | cons byte bytes ih =>
    refine holds_cons.mpr ⟨given 0 (by simp), ih fun index inside => ?_⟩
    have found := given (index + 1) (by simpa using inside)
    rw [Nat.add_assoc, Nat.add_comm 1]
    simpa using found

/-- The memory of a string holds it. -/
theorem holds_ofBytes (bytes : List UInt8) : (ofBytes bytes).Holds 0 bytes :=
  holds_of_get fun index inside => by simp [ofBytes, inside]

/-- A part of a string that is held is held. -/
theorem Holds.slice {bytes : List UInt8} (holds : memory.Holds start bytes) (skip count : Nat)
    (inside : skip ≤ bytes.length) :
    memory.Holds (start + skip) ((bytes.drop skip).take count) := by
  have cut : bytes = bytes.take skip ++ ((bytes.drop skip).take count ++
      (bytes.drop skip).drop count) := by
    rw [List.take_append_drop, List.take_append_drop]
  rw [cut, holds_append, holds_append, List.length_take, Nat.min_eq_left inside] at holds
  exact holds.2.1

/-- The end of a string that is held is held, where it begins inside. -/
theorem Holds.drop {bytes : List UInt8} (holds : memory.Holds start bytes) (skip : Nat)
    (inside : skip ≤ bytes.length) : memory.Holds (start + skip) (bytes.drop skip) := by
  rw [← List.take_append_drop skip bytes, holds_append, List.length_take,
    Nat.min_eq_left inside] at holds
  exact holds.2

/-- Two strings of one length that are held at one place are equal. -/
theorem Holds.unique {front back : List UInt8} (one : memory.Holds start front)
    (two : memory.Holds start back) (same : front.length = back.length) : front = back := by
  rw [Holds, same] at one
  exact Option.some.inj (one.symm.trans two)

/-- What has been written is held. -/
theorem holds_write_self (bytes : List UInt8) : (memory.write start bytes).Holds start bytes :=
  holds_of_get fun index inside => by simp [write, inside]

/-- What lies before or behind a write is still held. -/
theorem Holds.write_of_disjoint {bytes written : List UInt8} {place : Nat}
    (holds : memory.Holds start bytes)
    (apart : start + bytes.length ≤ place ∨ place + written.length ≤ start) :
    (memory.write place written).Holds start bytes :=
  holds_of_get fun index inside => by
    rw [write, if_neg (by omega)]
    exact holds.get inside

/-- Copying a string that is held writes it. -/
theorem Holds.copy_eq {bytes : List UInt8} (holds : memory.Holds start bytes) (target : Nat) :
    memory.copy target start bytes.length = memory.write target bytes := by
  funext offset
  simp only [copy, write]
  by_cases inside : target ≤ offset ∧ offset < target + bytes.length
  · have place : offset - target < bytes.length := by omega
    rw [if_pos inside, if_pos inside, holds.get place, List.getElem?_eq_getElem place]
  · rw [if_neg inside, if_neg inside]

/-- What lies before or behind a copy is still held. -/
theorem Holds.copy_of_disjoint {bytes : List UInt8} {target source count : Nat}
    (holds : memory.Holds start bytes)
    (apart : start + bytes.length ≤ target ∨ target + count ≤ start) :
    (memory.copy target source count).Holds start bytes :=
  holds_of_get fun index inside => by
    rw [copy, if_neg (by omega)]
    exact holds.get inside

/-- Writing behind a string that is held makes it longer. -/
theorem Holds.append_write {bytes written : List UInt8} (holds : memory.Holds start bytes) :
    (memory.write (start + bytes.length) written).Holds start (bytes ++ written) :=
  holds_append.mpr ⟨holds.write_of_disjoint (.inl (Nat.le_refl _)), holds_write_self written⟩

/-- Writing inside a string that is held changes that part of it. -/
theorem Holds.write_inside {front middle back written : List UInt8}
    (holds : memory.Holds start (front ++ middle ++ back))
    (same : written.length = middle.length) :
    (memory.write (start + front.length) written).Holds start (front ++ written ++ back) := by
  simp only [holds_append, List.length_append] at holds ⊢
  refine ⟨⟨holds.1.1.write_of_disjoint (.inl (Nat.le_refl _)), holds_write_self written⟩, ?_⟩
  rw [same]
  exact holds.2.write_of_disjoint (.inr (by omega))

end Memory

end Lcompat.Logic

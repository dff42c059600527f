import Mathlib

/-!
# Windows on lists

A window shows some elements of a list, with others in front of them and behind them. Moving its
ends changes what is shown and not the list, so a window is known from the list and two numbers:
an operation on the ends that is described by these numbers moves elements between the parts.
-/

namespace Lcompat.Logic

universe u

/-- A list in three parts, of which the middle one is shown. -/
structure Window (α : Type u) where
  /-- What is in front. -/
  front : List α
  /-- What is shown. -/
  body : List α
  /-- What is behind. -/
  back : List α

namespace Window

variable {α : Type u}

/-- All elements. -/
def whole (window : Window α) : List α := window.front ++ (window.body ++ window.back)

/-- The window that shows some elements of a list from an index on. -/
def cut (all : List α) (start count : Nat) : Window α :=
  ⟨all.take start, (all.drop start).take count, (all.drop start).drop count⟩

/-- Elements from behind are shown. -/
def put (count : Nat) (window : Window α) : Option (Window α) :=
  if count ≤ window.back.length then
    some ⟨window.front, window.body ++ window.back.take count, window.back.drop count⟩
  else none

/-- Elements from the front are shown. -/
def push (count : Nat) (window : Window α) : Option (Window α) :=
  if count ≤ window.front.length then
    some
      ⟨window.front.take (window.front.length - count),
        window.front.drop (window.front.length - count) ++ window.body, window.back⟩
  else none

/-- The first elements that are shown go to the front. -/
def pull (count : Nat) (window : Window α) : Option (Window α) :=
  if count ≤ window.body.length then
    some ⟨window.front ++ window.body.take count, window.body.drop count, window.back⟩
  else none

/-- Only the first elements stay shown, and the others go behind. -/
def trim (count : Nat) (window : Window α) : Option (Window α) :=
  if count ≤ window.body.length then
    some ⟨window.front, window.body.take count, window.body.drop count ++ window.back⟩
  else none

/-- The window moves back over the list. -/
def slide (count : Nat) (window : Window α) : Option (Window α) :=
  if count ≤ window.back.length then
    some (cut window.whole (window.front.length + count) window.body.length)
  else none

/-- The first elements behind are replaced. -/
def fill (elements : List α) (window : Window α) : Option (Window α) :=
  if elements.length ≤ window.back.length then
    some ⟨window.front, window.body, elements ++ window.back.drop elements.length⟩
  else none

/-- Some elements that are shown are replaced. -/
def store (index : Nat) (elements : List α) (window : Window α) : Option (Window α) :=
  if index + elements.length ≤ window.body.length then
    some
      ⟨window.front, window.body.take index ++ (elements ++
        window.body.drop (index + elements.length)), window.back⟩
  else none

variable {window window' : Window α} {count : Nat}

/-- The elements of a window that is cut out of a list are those of the list. -/
@[simp]
theorem whole_cut (all : List α) (start count : Nat) : (cut all start count).whole = all := by
  rw [whole, cut, List.take_append_drop, List.take_append_drop]

/-- What is in front of a window that begins inside a list. -/
theorem length_front_cut {all : List α} {start : Nat} (inside : start ≤ all.length) :
    (cut all start count).front.length = start := by
  rw [cut, List.length_take, Nat.min_eq_left inside]

/-- What is shown by a window inside a list. -/
theorem length_body_cut {all : List α} {start : Nat} (inside : start + count ≤ all.length) :
    (cut all start count).body.length = count := by
  rw [cut, List.length_take, List.length_drop, Nat.min_eq_left (by omega)]

/-- The parts of a window make up its list. -/
theorem length_whole (window : Window α) :
    window.whole.length = window.front.length + (window.body.length + window.back.length) := by
  rw [whole, List.length_append, List.length_append]

/-- Showing more of what is behind moves the end. -/
theorem put_eq_cut (enough : count ≤ window.back.length) :
    window.put count =
      some (cut window.whole window.front.length (window.body.length + count)) := by
  rw [put, if_pos enough, cut, whole, List.take_left, List.drop_left, List.take_length_add_append,
    List.drop_length_add_append]

/-- Showing more of the front moves the beginning. -/
theorem push_eq_cut (enough : count ≤ window.front.length) :
    window.push count = some (cut window.whole (window.front.length - count)
      (window.body.length + count)) := by
  have less : window.front.length - count ≤ window.front.length := Nat.sub_le _ _
  have moved : (window.front.drop (window.front.length - count)).length = count := by
    rw [List.length_drop]
    omega
  have sum : window.body.length + count =
      (window.front.drop (window.front.length - count) ++ window.body).length := by
    rw [List.length_append, moved, Nat.add_comm]
  rw [push, if_pos enough, cut, whole, List.take_append_of_le_length less,
    List.drop_append_of_le_length less, ← List.append_assoc, sum, List.take_left, List.drop_left]

/-- Showing less of the beginning moves it. -/
theorem pull_eq_cut (enough : count ≤ window.body.length) :
    window.pull count = some (cut window.whole (window.front.length + count)
      (window.body.length - count)) := by
  have moved : (window.body.drop count).length = window.body.length - count := List.length_drop
  rw [pull, if_pos enough, cut, whole, List.take_length_add_append, List.drop_length_add_append,
    List.take_append_of_le_length enough, List.drop_append_of_le_length enough, ← moved,
    List.take_left, List.drop_left]

/-- Showing less of the end moves it. -/
theorem trim_eq_cut (enough : count ≤ window.body.length) :
    window.trim count = some (cut window.whole window.front.length count) := by
  rw [trim, if_pos enough, cut, whole, List.take_left, List.drop_left,
    List.take_append_of_le_length enough, List.drop_append_of_le_length enough]

/-- Elements that are put behind are what the end of the window then shows. -/
theorem trim_of_put (elements : List α) (enough : elements.length ≤ window.back.length) :
    trim window.body.length ⟨window.front, window.body ++ elements,
      window.back.drop elements.length⟩ = window.fill elements := by
  rw [trim, if_pos (by simp), fill, if_pos enough, List.take_left, List.drop_left]

end Window

end Lcompat.Logic

import Mathlib

/-!
# Scattered strings

A string of which the front is in one piece and the rest is scattered over others. The pieces may
hold more than is shown: what is cut off the end of the string stays behind it in its piece, and
comes back when the string grows. What an operation makes of the string is therefore told by the
hidden part as well.
-/

namespace Lcompat.Logic

universe u

/-- A string in pieces, with what the last pieces hold behind it. -/
structure Scattered (α : Type u) where
  /-- What the first piece shows. -/
  front : List α
  /-- What the other pieces show. -/
  rest : List α
  /-- What the other pieces hold behind that. -/
  hidden : List α

namespace Scattered

variable {α : Type u}

/-- The string that is shown. -/
def shown (string : Scattered α) : List α := string.front ++ string.rest

/-- The string grows by as much as a new piece holds. -/
def add (piece : List α) (string : Scattered α) : Scattered α where
  front := string.front
  rest := string.rest ++ (string.hidden ++ piece).take piece.length
  hidden := (string.hidden ++ piece).drop piece.length

/-- Only the first elements stay shown. Other pieces are kept unless the first is cut. -/
def trim (count : Nat) (string : Scattered α) : Scattered α :=
  if count < string.front.length then ⟨string.front.take count, [], []⟩
  else
    ⟨string.front, string.rest.take (count - string.front.length),
      string.rest.drop (count - string.front.length) ++ string.hidden⟩

/-- The first elements of the first piece are left out. -/
def pull (count : Nat) (string : Scattered α) : Scattered α :=
  { string with front := string.front.drop count }

/-- What is shown comes into one piece, unless it is there already. -/
def gather (string : Scattered α) : Scattered α :=
  if string.rest = [] then string else ⟨string.shown, [], []⟩

end Scattered

end Lcompat.Logic

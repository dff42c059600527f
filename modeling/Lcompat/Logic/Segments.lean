import Mathlib

/-!
# Lists of segments

A segment is a run of places in one area, such as some bytes of one page. A list of segments
stands for the places of its segments one behind the other. Cutting the list to a range of these
places keeps a part of each segment that the range meets, and of no other one, so the number of
segments that are left is the number of segments that are met.
-/

namespace Lcompat.Logic

universe u

/-- A run of places in an area. -/
@[ext]
structure Segment (Area : Type u) where
  /-- The area. -/
  area : Area
  /-- The first place. -/
  start : Nat
  /-- The number of places. -/
  length : Nat
  deriving DecidableEq

namespace Segment

variable {Area : Type u}

/-- The places of a segment. -/
def places (segment : Segment Area) : List (Area × Nat) :=
  (List.range segment.length).map fun i => (segment.area, segment.start + i)

/-- The places of some segments. -/
def allPlaces (segments : List (Segment Area)) : List (Area × Nat) := segments.flatMap places

/-- The parts of segments that lie in a range: some places are skipped, and no more than some
number of them is kept. -/
def cut : List (Segment Area) → Nat → Nat → List (Segment Area)
  | [], _, _ => []
  | segment :: segments, skip, count =>
    if count = 0 then []
    else if segment.length ≤ skip then cut segments (skip - segment.length) count
    else
      ⟨segment.area, segment.start + skip, min (segment.length - skip) count⟩ ::
        cut segments 0 (count - min (segment.length - skip) count)

/-- How many places lie before a segment. -/
def before (segments : List (Segment Area)) (i : Nat) : Nat :=
  ((segments.take i).map length).sum

/-- A place of a range lies in a segment. -/
def meets (segments : List (Segment Area)) (skip count i : Nat) : Bool :=
  max skip (before segments i) < min (skip + count) (before segments (i + 1))

/-- The number of segments that a range meets. -/
def met (segments : List (Segment Area)) (skip count : Nat) : Nat :=
  (List.range segments.length).countP (meets segments skip count)

variable {segment : Segment Area} {segments : List (Segment Area)} {skip count : Nat}

/-- No segments have no places. -/
@[simp]
theorem allPlaces_nil : allPlaces ([] : List (Segment Area)) = [] := rfl

end Segment

end Lcompat.Logic

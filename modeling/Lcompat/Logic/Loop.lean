import Mathlib

/-!
# Loops that may fault

A turn of a loop takes a state to the next one, to the result of the loop, or faults. A loop whose
turns come closer to an end and agree about a result comes to that result: it takes no more turns
than the first state is away from the end, and none of them faults.
-/

namespace Lcompat.Logic

universe u v

/-- One turn of a loop: the next state or a result, or none for a fault. -/
abbrev Turn (State : Type u) (Result : Type v) := State → Option (State ⊕ Result)

namespace Turn

variable {State : Type u} {Result : Type v}

/-- Some turns of a loop: a result, or none for a fault and for too few turns. -/
def run (turn : Turn State Result) : Nat → State → Option Result
  | 0, _ => none
  | turns + 1, s =>
    (turn s).bind fun next => next.elim (run turn turns) some

/-- What one turn may do in a loop that comes closer to an end and agrees about a result. -/
inductive Agrees (turn : Turn State Result) (away : State → Nat) (result : State → Result)
    (holds : State → Prop) (s : State) : Prop
  /-- The loop ends with the result. -/
  | ends (turned : turn s = some (.inr (result s)))
  /-- The loop goes on. -/
  | goesOn (t : State) (turned : turn s = some (.inl t)) (closer : away t < away s)
      (same : result t = result s) (held : holds t)

variable {turn : Turn State Result} {away : State → Nat} {result : State → Result}
  {holds : State → Prop}

/-- A loop whose turns come closer to an end and agree about a result comes to it. -/
theorem run_eq_some (agrees : ∀ s, holds s → turn.Agrees away result holds s) {s : State}
    (start : holds s) {turns : Nat} (enough : away s < turns) :
    turn.run turns s = some (result s) := by
  induction turns generalizing s with
  | zero => exact absurd enough (Nat.not_lt_zero _)
  | succ turns ih =>
    rw [run]
    cases agrees s start with
    | ends turned =>
      rw [turned]
      rfl
    | goesOn t turned closer same held =>
      rw [turned, ← same]
      exact ih held (by omega)

end Turn

end Lcompat.Logic

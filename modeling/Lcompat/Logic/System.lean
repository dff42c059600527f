import Mathlib

/-!
# Transition systems with an executable step

A system is given by its initial states and a partial step function on labels, so a
concrete run can be evaluated while invariants are proved over every run. Assumptions on
single steps are predicates of a state and a label; a path carries the predicate that all
its steps meet. The invariant rule is stated once for paths, and the exactness rule says
when a state property holds throughout a run if and only if every step meets a condition.
-/

namespace Lcompat.Logic

universe u v

/-- Two tasks are numbered from zero. -/
instance neZeroTwo : NeZero 2 := ⟨Nat.succ_ne_zero 1⟩

/-- Three tasks are numbered from zero. -/
instance neZeroThree : NeZero 3 := ⟨Nat.succ_ne_zero 2⟩

/-- Four bands are numbered from zero. -/
instance neZeroFour : NeZero 4 := ⟨Nat.succ_ne_zero 3⟩

/-- Initial states and a partial executable step on labels. -/
structure System (State : Type u) (Label : Type v) where
  /-- States in which a run may begin. -/
  init : State → Prop
  /-- One step; `none` when the label is not enabled. -/
  step : State → Label → Option State

namespace System

variable {State : Type u} {Label : Type v} (sys : System State Label)

/-- Execute labels in order, refusing the run at the first label that is not enabled. -/
def run : State → List Label → Option State
  | s, [] => some s
  | s, a :: labels => (sys.step s a).bind fun t => run t labels

/-- Execute labels in order, refusing the run at the first label that is not enabled or whose
step does not meet a predicate. -/
def runWith (ok : State → Label → Prop) [∀ s a, Decidable (ok s a)] :
    State → List Label → Option State
  | s, [] => some s
  | s, a :: labels => if ok s a then (sys.step s a).bind fun t => runWith ok t labels else none

/-- Zero or more steps, each of which meets a predicate of its source and label. -/
inductive Path (ok : State → Label → Prop) : State → State → Prop
  | refl (s : State) : Path ok s s
  | tail {s t u : State} {a : Label} :
      Path ok s t → ok t a → sys.step t a = some u → Path ok s u

/-- States on a path from an initial state all of whose steps meet a predicate. -/
def Reach (ok : State → Label → Prop) (s : State) : Prop :=
  ∃ start, sys.init start ∧ sys.Path ok start s

/-- States on any path from an initial state. -/
abbrev Reachable (s : State) : Prop := sys.Reach (fun _ _ => True) s

/-- Every step of a run meets a predicate. -/
def Along (ok : State → Label → Prop) : State → List Label → Prop
  | _, [] => True
  | s, a :: labels => ok s a ∧ ∀ t, sys.step s a = some t → Along ok t labels

/-- Every state of a run satisfies a predicate, its first and last included. -/
def Throughout (holds : State → Prop) : State → List Label → Prop
  | s, [] => holds s
  | s, a :: labels => holds s ∧ ∀ t, sys.step s a = some t → Throughout holds t labels

/-- The same system with a history: what an observer notes of each step, newest first. -/
def record {Event : Type*} (observe : State → Label → List Event) :
    System (State × List Event) Label where
  init s := sys.init s.1 ∧ s.2 = []
  step s a := (sys.step s.1 a).map fun t => (t, observe s.1 a ++ s.2)

variable {sys}

/-- A predicate kept by every admitted step is kept along a path. -/
theorem Path.invariant {ok : State → Label → Prop} {s t : State} (path : sys.Path ok s t)
    (holds : State → Prop) (start : holds s)
    (keeps : ∀ t a u, holds t → ok t a → sys.step t a = some u → holds u) : holds t := by
  induction path with
  | refl => exact start
  | tail _ admitted stepped ih => exact keeps _ _ _ ih admitted stepped

/-- A predicate of the initial states kept by every admitted step holds where they reach. -/
theorem Reach.invariant {ok : State → Label → Prop} {s : State} (reach : sys.Reach ok s)
    (holds : State → Prop) (start : ∀ s, sys.init s → holds s)
    (keeps : ∀ t a u, holds t → ok t a → sys.step t a = some u → holds u) : holds s := by
  obtain ⟨first, initial, path⟩ := reach
  exact path.invariant holds (start first initial) keeps

/-- Weakening the predicate on steps keeps a path. -/
theorem Path.mono {ok ok' : State → Label → Prop} {s t : State} (path : sys.Path ok s t)
    (weaker : ∀ s a, ok s a → ok' s a) : sys.Path ok' s t := by
  induction path with
  | refl => exact .refl _
  | tail _ admitted stepped ih => exact .tail ih (weaker _ _ admitted) stepped

/-- Paths compose. -/
theorem Path.trans {ok : State → Label → Prop} {s t u : State} (first : sys.Path ok s t)
    (second : sys.Path ok t u) : sys.Path ok s u := by
  induction second with
  | refl => exact first
  | tail _ admitted stepped ih => exact .tail ih admitted stepped

/-- One admitted step is a path. -/
theorem Path.single {ok : State → Label → Prop} {s t : State} {a : Label} (admitted : ok s a)
    (stepped : sys.step s a = some t) : sys.Path ok s t :=
  .tail (.refl s) admitted stepped

/-- Weakening the predicate on steps keeps reachability. -/
theorem Reach.mono {ok ok' : State → Label → Prop} {s : State} (reach : sys.Reach ok s)
    (weaker : ∀ s a, ok s a → ok' s a) : sys.Reach ok' s := by
  obtain ⟨first, initial, path⟩ := reach
  exact ⟨first, initial, path.mono weaker⟩

/-- One admitted step from a reached state reaches its target. -/
theorem Reach.step {ok : State → Label → Prop} {s t : State} {a : Label}
    (reach : sys.Reach ok s) (admitted : ok s a) (stepped : sys.step s a = some t) :
    sys.Reach ok t := by
  obtain ⟨first, initial, path⟩ := reach
  exact ⟨first, initial, path.tail admitted stepped⟩

/-- An executed run whose steps meet a predicate is a path. -/
theorem path_of_run {ok : State → Label → Prop} {s t : State} {labels : List Label}
    (along : sys.Along ok s labels) (ran : sys.run s labels = some t) : sys.Path ok s t := by
  induction labels generalizing s with
  | nil =>
    obtain rfl := Option.some.inj ran
    exact .refl _
  | cons a labels ih =>
    obtain ⟨next, stepped, rest⟩ := Option.bind_eq_some_iff.mp ran
    exact (Path.single along.1 stepped).trans (ih (along.2 next stepped) rest)

/-- An executed run that was not refused is a path of admitted steps. -/
theorem path_of_runWith {ok : State → Label → Prop} [∀ s a, Decidable (ok s a)] {s t : State}
    {labels : List Label} (ran : sys.runWith ok s labels = some t) : sys.Path ok s t := by
  induction labels generalizing s with
  | nil =>
    obtain rfl := Option.some.inj ran
    exact .refl _
  | cons a labels ih =>
    by_cases admitted : ok s a
    · rw [runWith, if_pos admitted] at ran
      obtain ⟨next, stepped, rest⟩ := Option.bind_eq_some_iff.mp ran
      exact (Path.single admitted stepped).trans (ih rest)
    · simp [runWith, admitted] at ran

/-- An executed run that was not refused is a run whose steps meet the predicate. -/
theorem along_of_runWith {ok : State → Label → Prop} [∀ s a, Decidable (ok s a)] {s t : State}
    {labels : List Label} (ran : sys.runWith ok s labels = some t) :
    sys.Along ok s labels ∧ sys.run s labels = some t := by
  induction labels generalizing s with
  | nil => exact ⟨trivial, ran⟩
  | cons a labels ih =>
    by_cases admitted : ok s a
    · rw [runWith, if_pos admitted] at ran
      obtain ⟨next, stepped, rest⟩ := Option.bind_eq_some_iff.mp ran
      obtain ⟨along, executed⟩ := ih rest
      refine ⟨⟨admitted, fun u found => ?_⟩, ?_⟩
      · obtain rfl := Option.some.inj (found.symm.trans stepped)
        exact along
      · rw [run, stepped]
        exact executed
    · simp [runWith, admitted] at ran

/-- Weakening the predicate on the steps of a run. -/
theorem Along.mono {ok ok' : State → Label → Prop} {s : State} {labels : List Label}
    (along : sys.Along ok s labels) (weaker : ∀ s a, ok s a → ok' s a) :
    sys.Along ok' s labels := by
  induction labels generalizing s with
  | nil => trivial
  | cons a labels ih =>
    exact ⟨weaker s a along.1, fun t stepped => ih (along.2 t stepped)⟩

/-- A run whose first step is enabled meets a predicate when that step and the rest do. -/
theorem along_cons {ok : State → Label → Prop} {s t : State} {a : Label} {labels : List Label}
    (admitted : ok s a) (stepped : sys.step s a = some t) (rest : sys.Along ok t labels) :
    sys.Along ok s (a :: labels) :=
  ⟨admitted, fun u found => by
    obtain rfl := Option.some.inj (found.symm.trans stepped)
    exact rest⟩

/-- A predicate of every step holds along every run. -/
theorem along_of_forall {ok : State → Label → Prop} (always : ∀ s a, ok s a) (s : State)
    (labels : List Label) : sys.Along ok s labels := by
  induction labels generalizing s with
  | nil => trivial
  | cons a labels ih => exact ⟨always s a, fun t _ => ih t⟩

/-- Where an invariant makes two predicates of a step agree, they hold along the same runs. -/
theorem along_iff_along {inv : State → Prop} {ok ok' : State → Label → Prop}
    (agree : ∀ s a, inv s → (ok s a ↔ ok' s a))
    (keeps : ∀ s a t, inv s → sys.step s a = some t → inv t) {s : State} {labels : List Label}
    (start : inv s) : sys.Along ok s labels ↔ sys.Along ok' s labels := by
  induction labels generalizing s with
  | nil => exact Iff.rfl
  | cons a labels ih =>
    have rest : (∀ t, sys.step s a = some t → sys.Along ok t labels) ↔
        ∀ t, sys.step s a = some t → sys.Along ok' t labels := by
      constructor
      · exact fun along t stepped => (ih (keeps s a t start stepped)).mp (along t stepped)
      · exact fun along t stepped => (ih (keeps s a t start stepped)).mpr (along t stepped)
    exact and_congr (agree s a start) rest

/-- The end of an executed run from an initial state is reachable. -/
theorem reachable_of_run {s t : State} {labels : List Label} (initial : sys.init s)
    (ran : sys.run s labels = some t) : sys.Reachable t :=
  ⟨s, initial, path_of_run (along_of_forall (fun _ _ => trivial) s labels) ran⟩

/-- A step of a system with a history is a step of the system, which the observer notes. -/
theorem record_step_eq_some {Event : Type*} {observe : State → Label → List Event}
    {s t : State × List Event} {a : Label} :
    (sys.record observe).step s a = some t ↔
      sys.step s.1 a = some t.1 ∧ t.2 = observe s.1 a ++ s.2 := by
  obtain ⟨state, notes⟩ := t
  simp only [record, Option.map_eq_some_iff, Prod.mk.injEq]
  constructor
  · rintro ⟨next, stepped, rfl, rfl⟩
    exact ⟨stepped, rfl⟩
  · rintro ⟨stepped, rfl⟩
    exact ⟨state, stepped, rfl, rfl⟩

/-- Every reachable state has a history that leads to it. -/
theorem Reachable.recorded {Event : Type*} (observe : State → Label → List Event) {s : State}
    (reach : sys.Reachable s) : ∃ notes, (sys.record observe).Reachable (s, notes) := by
  refine reach.invariant (fun s => ∃ notes, (sys.record observe).Reachable (s, notes)) ?_ ?_
  · exact fun s initial => ⟨[], (s, []), ⟨initial, rfl⟩, .refl _⟩
  · rintro t a u ⟨notes, before⟩ - stepped
    exact ⟨_, before.step trivial (record_step_eq_some.mpr ⟨stepped, rfl⟩)⟩

/-- Exactness of a condition on steps. When every legal step that meets the condition keeps
an invariant, the invariant gives the property, and a legal step into a state with the
property meets the condition, the property holds throughout a legal run if and only if all
its steps meet the condition. -/
theorem throughout_iff_along {holds inv : State → Prop} {legal ok : State → Label → Prop}
    (gives : ∀ s, inv s → holds s)
    (keeps : ∀ s a t, inv s → legal s a → ok s a → sys.step s a = some t → inv t)
    (exact_ : ∀ s a t, inv s → legal s a → sys.step s a = some t → holds t → ok s a)
    {s t : State} {labels : List Label} (start : inv s) (lawful : sys.Along legal s labels)
    (ran : sys.run s labels = some t) :
    sys.Throughout holds s labels ↔ sys.Along ok s labels := by
  induction labels generalizing s with
  | nil => exact ⟨fun _ => trivial, fun _ => gives s start⟩
  | cons a labels ih =>
    obtain ⟨next, stepped, rest⟩ := Option.bind_eq_some_iff.mp ran
    -- the step is deterministic, so the quantified successor is `next`
    have unique : ∀ u, sys.step s a = some u → u = next := fun u found =>
      Option.some.inj (found.symm.trans stepped)
    constructor
    · rintro ⟨_, later⟩
      have tailHolds := later next stepped
      have nextHolds : holds next := by
        cases labels with
        | nil => exact tailHolds
        | cons b labels => exact tailHolds.1
      have met := exact_ s a next start lawful.1 stepped nextHolds
      refine ⟨met, fun u found => ?_⟩
      obtain rfl := unique u found
      exact (ih (keeps s a u start lawful.1 met stepped) (lawful.2 u stepped) rest).mp tailHolds
    · rintro ⟨met, later⟩
      refine ⟨gives s start, fun u found => ?_⟩
      obtain rfl := unique u found
      exact (ih (keeps s a u start lawful.1 met stepped) (lawful.2 u stepped) rest).mpr
        (later u stepped)

end System

end Lcompat.Logic

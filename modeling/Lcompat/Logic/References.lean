import Mathlib

/-!
# Ledgers of references

Events give and take references of resources. A ledger says how many of each, and which resources
an event uses. A list of events is replayed against the references that are held: what is used or
taken must be held by then. The books of a replay balance, and nothing is used after its last
reference was taken.
-/

namespace Lcompat.Logic

variable {Event Resource : Type*}

/-- What events do to references. -/
structure RefLedger (Event Resource : Type*) where
  /-- How many references an event adds. -/
  gained : Event → Resource → Nat
  /-- How many it takes. -/
  dropped : Event → Resource → Nat
  /-- What it uses. -/
  Uses : Event → Resource → Prop

namespace RefLedger

variable (ledger : RefLedger Event Resource)

/-- An event uses and takes only what is held. -/
def Covered (held : Resource → Nat) (event : Event) : Prop :=
  ∀ resource, (ledger.Uses event resource → 0 < held resource) ∧
    ledger.dropped event resource ≤ held resource

/-- What is held after an event. -/
def next (held : Resource → Nat) (event : Event) : Resource → Nat :=
  fun resource => held resource - ledger.dropped event resource + ledger.gained event resource

/-- Some events lead from some references to others. -/
def Replays : (Resource → Nat) → List Event → (Resource → Nat) → Prop
  | held, [], held' => held' = held
  | held, event :: events, held' =>
    ledger.Covered held event ∧ Replays (ledger.next held event) events held'

/-- How many references some events add. -/
def allGained (events : List Event) (resource : Resource) : Nat :=
  (events.map fun event => ledger.gained event resource).sum

/-- How many they take. -/
def allDropped (events : List Event) (resource : Resource) : Nat :=
  (events.map fun event => ledger.dropped event resource).sum

variable {ledger} {held held' held'' : Resource → Nat} {events events' : List Event}

/-- A replay goes on where another one stops. -/
theorem Replays.append (first : ledger.Replays held events held')
    (second : ledger.Replays held' events' held'') :
    ledger.Replays held (events ++ events') held'' := by
  induction events generalizing held with
  | nil =>
    have same : held' = held := first
    rw [same] at second
    exact second
  | cons event events ih => exact ⟨first.1, ih first.2⟩

/-- A replay can be stopped anywhere. -/
theorem Replays.split (whole : ledger.Replays held (events ++ events') held'') :
    ∃ held', ledger.Replays held events held' ∧ ledger.Replays held' events' held'' := by
  induction events generalizing held with
  | nil => exact ⟨held, rfl, whole⟩
  | cons event events ih =>
    obtain ⟨held', front, back⟩ := ih whole.2
    exact ⟨held', ⟨whole.1, front⟩, back⟩

/-- The books of a replay balance. -/
theorem Replays.balance (replays : ledger.Replays held events held') (resource : Resource) :
    held resource + ledger.allGained events resource =
      ledger.allDropped events resource + held' resource := by
  induction events generalizing held with
  | nil =>
    have same : held' = held := replays
    simp [allGained, allDropped, same]
  | cons event events ih =>
    have rest := ih replays.2
    have covered := (replays.1 resource).2
    simp only [next] at rest
    simp only [allGained, allDropped, List.map_cons, List.sum_cons] at rest ⊢
    omega

/-- What is used has a reference by then that was not taken. -/
theorem Replays.unspent {event : Event} {resource : Resource}
    (replays : ledger.Replays held (events ++ event :: events') held')
    (uses : ledger.Uses event resource) :
    ledger.allDropped events resource < held resource + ledger.allGained events resource := by
  obtain ⟨between, front, covered, -⟩ := replays.split
  have balance := front.balance resource
  have some_ := (covered resource).1 uses
  omega

end RefLedger

end Lcompat.Logic

import Lcompat.Logic.Pool

/-!
# Reference counts

`kref_put` decrements through the native counter and reads the counter again to decide on
the release; `kref_get_unless_zero` tests the counter and increments it afterwards. Each of
these accesses is one step of a task, and any number of tasks interleave. `dma_fence_put` is
`kref_put` on the counter of a fence with the release function of its operations.

Two puts that have both decremented before either reads will both see zero. The released
object is therefore released once exactly when the put that takes the counter to zero meets
no other task between its two accesses, and the results below are about the runs in which
that holds.
-/

namespace Lcompat

open Lcompat.Logic

/-- The counter of one object, with the history of the object that no task reads. -/
structure Kref where
  /-- `ref_count`. -/
  refCount : Int
  /-- Calls of the release function so far. -/
  releases : Nat
  /-- Whether a decrement has taken the counter to zero. -/
  reachedZero : Bool
  /-- Whether a reference was taken after the counter had reached zero. -/
  resurrected : Bool
  deriving DecidableEq

namespace Kref

/-- Where a task stands with respect to the object. -/
inductive Task where
  /-- Owns one reference, to be dropped by one call of `kref_put`. -/
  | holding
  /-- In `kref_put`, after `kref_unref` and before the read of `ref_count`. -/
  | dropped
  /-- In `kref_put`, having read zero, before the call of the release function. -/
  | releasing
  /-- `kref_put` has returned. -/
  | put
  /-- Owns no reference and may call `kref_get_unless_zero`. -/
  | outside
  /-- In `kref_get_unless_zero`, having read a positive counter, before `kref_ref`. -/
  | tested
  /-- `kref_get_unless_zero` has returned false. -/
  | refused
  deriving DecidableEq

/-- `kref_unref`: one atomic decrement. -/
def unref (k : Kref) : Kref :=
  { k with refCount := k.refCount - 1, reachedZero := k.reachedZero || k.refCount - 1 == 0 }

/-- `kref_ref`: one atomic increment. -/
def ref (k : Kref) : Kref :=
  { k with refCount := k.refCount + 1, resurrected := k.resurrected || k.reachedZero }

/-- `kref_put`: decrement, read the counter again, and release when it reads zero. -/
def krefPut (k : Kref) : Task → Option (Kref × Task)
  | .holding => some (k.unref, .dropped)
  | .dropped => some (k, if k.refCount = 0 then .releasing else .put)
  | .releasing => some ({ k with releases := k.releases + 1 }, .put)
  | _ => none

/-- `kref_get_unless_zero`: test, then increment. A task that got its reference owns it like
any other holder. -/
def krefGetUnlessZero (k : Kref) : Task → Option (Kref × Task)
  | .outside => some (k, if k.refCount ≤ 0 then .refused else .tested)
  | .tested => some (k.ref, .holding)
  | _ => none

/-- The next access of a task. -/
def exec (k : Kref) (task : Task) (_ : Unit) : Option (Kref × Task) :=
  match task with
  | .outside | .tested | .refused => krefGetUnlessZero k task
  | .holding | .dropped | .releasing | .put => krefPut k task

variable {Id : Type} [DecidableEq Id] [Fintype Id]

/-- One object and the tasks that use it. -/
abbrev Holders (Id : Type) := Pool Id Kref Task

/-- Tasks between an access of `kref_put` or `kref_get_unless_zero` and the next. -/
def Task.busy : Task → Bool
  | .dropped | .releasing | .tested => true
  | _ => false

/-- At first some tasks, at least one, own one reference each and the counter says how many;
the others own none and nobody is inside a call. -/
structure Fresh (p : Holders Id) : Prop where
  /-- Every task is a holder or has no reference. -/
  roles : ∀ t, p.threads t = .holding ∨ p.threads t = .outside
  /-- Each holder owns one reference. -/
  owned : p.shared.refCount = Pool.count (· = .holding) p.threads
  /-- The object is in use. -/
  used : 0 < Pool.count (· = .holding) p.threads
  /-- Nothing has happened yet. -/
  history : p.shared.releases = 0 ∧ p.shared.reachedZero = false ∧ p.shared.resurrected = false

/-- Every interleaving of the accesses of the tasks. -/
def system (Id : Type) [DecidableEq Id] [Fintype Id] : System (Holders Id) (Id × Unit) :=
  Pool.system exec Fresh

/-- The decrement that takes the counter to zero is made while no other put stands between
its decrement and its read and no get stands between its test and its increment. -/
def LastPutAlone (p : Holders Id) (a : Id × Unit) : Prop :=
  p.threads a.1 = .holding → p.shared.refCount = 1 →
    ∀ t, p.threads t ≠ .dropped ∧ p.threads t ≠ .tested

/-- The counter is the number of holders, and once it has reached zero nobody can take a
reference and exactly one release is due or done. -/
structure Inv (p : Holders Id) : Prop where
  /-- The counter is the number of references owned. -/
  owned : p.shared.refCount = Pool.count (· = .holding) p.threads
  /-- The counter stays at zero. -/
  zero : p.shared.reachedZero = true ↔ Pool.count (· = .holding) p.threads = 0
  /-- No get is under way past zero. -/
  no_get : p.shared.reachedZero = true → Pool.count (· = .tested) p.threads = 0
  /-- One release is due or done. -/
  one_release : p.shared.reachedZero = true →
    Pool.count (· = .dropped) p.threads + Pool.count (· = .releasing) p.threads +
      p.shared.releases = 1
  /-- No release before zero. -/
  none_before : p.shared.reachedZero = false →
    Pool.count (· = .releasing) p.threads = 0 ∧ p.shared.releases = 0
  /-- No reference was taken after zero. -/
  never_late : p.shared.resurrected = false

omit [DecidableEq Id] in
/-- A fresh object satisfies the invariant. -/
theorem Fresh.inv {p : Holders Id} (fresh : Fresh p) : Inv p := by
  obtain ⟨released, reached, late⟩ := fresh.history
  have absent : ∀ role : Task, role ≠ .holding → role ≠ .outside →
      Pool.count (· = role) p.threads = 0 := by
    intro role notHolding notOutside
    rw [Pool.count_eq_zero_iff]
    rintro t rfl
    rcases fresh.roles t with held | out
    · exact notHolding held
    · exact notOutside out
  have used := fresh.used
  exact
    { owned := fresh.owned
      zero := by simp only [reached, Bool.false_eq_true, false_iff]; omega
      no_get := fun _ => absent .tested (by decide) (by decide)
      one_release := by simp [reached]
      none_before := fun _ => ⟨absent .releasing (by decide) (by decide), released⟩
      never_late := late }

/-- Moving a task changes the four counts of the invariant by the task's own part. -/
theorem counts_update (threads : Id → Task) (t : Id) (next : Task) (role : Task) :
    Pool.count (· = role) (Function.update threads t next) +
        (if threads t = role then 1 else 0) =
      Pool.count (· = role) threads + (if next = role then 1 else 0) :=
  Pool.count_update (· = role) threads t next

/-- Every access keeps the invariant when the last put is alone. -/
theorem Inv.step {p q : Holders Id} {a : Id × Unit} (inv : Inv p) (alone : LastPutAlone p a)
    (stepped : (system Id).step p a = some q) : Inv q := by
  obtain ⟨t, _⟩ := a
  obtain ⟨shared, next, executed, rfl⟩ := Pool.step_eq_some.mp stepped
  obtain ⟨owned, zero, no_get, one_release, none_before, never_late⟩ := inv
  have holding := counts_update p.threads t next .holding
  have dropped := counts_update p.threads t next .dropped
  have releasing := counts_update p.threads t next .releasing
  have tested := counts_update p.threads t next .tested
  have member : 0 < Pool.count (· = p.threads t) p.threads := Pool.count_pos (· = p.threads t) rfl
  cases here : p.threads t with
  | holding =>
    simp only [exec, here, krefPut, Option.some.injEq, Prod.mk.injEq] at executed
    obtain ⟨rfl, rfl⟩ := executed
    have held := here ▸ member
    have before : p.shared.reachedZero = false := by
      by_contra reached
      have := zero.mp (by simpa using reached)
      omega
    simp only [here, reduceCtorEq, if_true, if_false] at holding dropped releasing tested
    by_cases last : p.shared.refCount = 1
    · -- the counter reaches zero: the condition says that nobody else is inside a call
      have others := alone here last
      have noDropped : Pool.count (· = Task.dropped) p.threads = 0 :=
        (Pool.count_eq_zero_iff _ _).mpr fun u => (others u).1
      have noTested : Pool.count (· = Task.tested) p.threads = 0 :=
        (Pool.count_eq_zero_iff _ _).mpr fun u => (others u).2
      have quiet := none_before before
      constructor <;> simp only [unref, last] <;> grind -ring -linarith
    · constructor <;> simp only [unref, before] <;> grind -ring -linarith
  | dropped =>
    simp only [exec, here, krefPut, Option.some.injEq, Prod.mk.injEq] at executed
    obtain ⟨rfl, rfl⟩ := executed
    have read : p.shared.refCount = 0 ↔ p.shared.reachedZero = true := by
      rw [zero, owned]
      omega
    by_cases reached : p.shared.reachedZero = true
    · simp only [here, read.mpr reached] at holding dropped releasing tested ⊢
      constructor <;> grind -ring -linarith
    · simp only [here, mt read.mp reached] at holding dropped releasing tested ⊢
      constructor <;> grind -ring -linarith
  | releasing =>
    simp only [exec, here, krefPut, Option.some.injEq, Prod.mk.injEq] at executed
    obtain ⟨rfl, rfl⟩ := executed
    have due := here ▸ member
    simp only [here] at holding dropped releasing tested
    constructor <;> grind -ring -linarith
  | outside =>
    simp only [exec, here, krefGetUnlessZero, Option.some.injEq, Prod.mk.injEq] at executed
    obtain ⟨rfl, rfl⟩ := executed
    simp only [here] at holding dropped releasing tested
    constructor <;> grind -ring -linarith
  | tested =>
    simp only [exec, here, krefGetUnlessZero, Option.some.injEq, Prod.mk.injEq] at executed
    obtain ⟨rfl, rfl⟩ := executed
    have under := here ▸ member
    simp only [here] at holding dropped releasing tested
    constructor <;> simp only [ref] <;> grind -ring -linarith
  | put => simp [exec, here, krefPut] at executed
  | refused => simp [exec, here, krefGetUnlessZero] at executed

end Kref

end Lcompat

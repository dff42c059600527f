import Lcompat.Logic.Exchange

/-!
# Atomic reference counts

`refcount_t` is an `atomic_t`: `refcount_inc` and `refcount_dec_and_test` are one access each, and
`refcount_inc_not_zero` reads the counter and exchanges it for one more, until no other task has
changed it in between. Tasks own any number of references, and any number of tasks make calls in any
order; a caller of `refcount_inc` and of `refcount_dec_and_test` owns a reference.
-/

namespace Lcompat.Refcount

open Lcompat.Logic

/-- The counter, with the history of the counter that no task reads. -/
structure Counter where
  /-- `counter`. -/
  counter : Int32
  /-- Calls of `refcount_dec_and_test` that were told that theirs was the last reference. -/
  told : Nat
  /-- Whether a reference was taken after that. -/
  late : Bool
  /-- Stores to the counter. -/
  changes : Nat
  /-- Exchanges that failed. -/
  failures : Nat
  deriving DecidableEq

/-- The accesses of `atomic_add_unless`. -/
inductive AddUnless where
  /-- `atomic_read`. -/
  | read
  /-- `atomic_cmpxchg` from what was read. -/
  | exchange (old : Int32)
  deriving DecidableEq

/-- A call that an owner of a reference makes, or that anyone makes. -/
inductive Call where
  /-- `refcount_inc`, by an owner. -/
  | inc
  /-- `refcount_inc_not_zero`, by anyone. -/
  | incNotZero
  /-- `refcount_dec_and_test`, by an owner. -/
  | decAndTest
  deriving DecidableEq

/-- A task: the references that it owns, and where it is in `refcount_inc_not_zero`. -/
structure Task where
  /-- The references that it owns. -/
  refs : Nat
  /-- The access of `atomic_add_unless` that comes next, if it is in that. -/
  access : Option AddUnless
  deriving DecidableEq

/-- A store to the counter. A reference that is taken after the last one is late. -/
def Counter.store (c : Counter) (value : Int32) (taken : Bool) : Counter :=
  { c with
    counter := value
    late := c.late || taken && decide (0 < c.told)
    changes := c.changes + 1 }

/-- `atomic_add_unless`, which is where references are taken. -/
def atomicAddUnless (add unless_ : Int32) (c : Counter) : AddUnless → Counter × Next AddUnless Bool
  | .read => (c, if c.counter = unless_ then .ret false else .goto (.exchange c.counter))
  | .exchange old =>
    if c.counter = old then (c.store (old + add) true, .ret true)
    else ({ c with failures := c.failures + 1 }, .goto .read)

/-- `refcount_inc_not_zero`, which is `atomic_inc_not_zero`. -/
def refcountIncNotZero (c : Counter) (access : AddUnless) : Counter × Next AddUnless Bool :=
  atomicAddUnless 1 0 c access

/-- `refcount_inc`. -/
def refcountInc (c : Counter) : Counter := c.store (c.counter + 1) true

/-- `refcount_dec_and_test`, with what it returns. -/
def refcountDecAndTest (c : Counter) : Counter × Bool :=
  let value := c.counter - 1
  let last := value = 0
  ({ c.store value false with told := if last then c.told + 1 else c.told }, last)

/-- A task goes on in `refcount_inc_not_zero`, or has returned from it. -/
def Task.continue_ (task : Task) : Next AddUnless Bool → Task
  | .goto access => { task with access := some access }
  | .ret true => ⟨task.refs + 1, none⟩
  | .ret false => ⟨task.refs, none⟩

/-- The next access of a task, which is that of a new call unless it is in one. -/
def exec (c : Counter) (task : Task) (call : Call) : Option (Counter × Task) :=
  match task.access with
  | some access =>
    let (c, next) := refcountIncNotZero c access
    some (c, task.continue_ next)
  | none =>
    match call with
    | .incNotZero =>
      let (c, next) := refcountIncNotZero c .read
      some (c, task.continue_ next)
    | .inc => if task.refs = 0 then none else some (refcountInc c, ⟨task.refs + 1, none⟩)
    | .decAndTest =>
      if task.refs = 0 then none else some ((refcountDecAndTest c).1, ⟨task.refs - 1, none⟩)

variable {Id : Type} [DecidableEq Id] [Fintype Id]

/-- One counter and the tasks that use it. -/
abbrev Tasks (Id : Type) := Pool Id Counter Task

/-- The references that all tasks own. -/
noncomputable def owned (p : Tasks Id) : Nat := Pool.total Task.refs p.threads

/-- `refcount_set` to the number of references that tasks own, of which there are some. -/
structure Fresh (p : Tasks Id) : Prop where
  /-- The counter says how many there are. -/
  counts : p.shared.counter.toInt = owned p
  /-- There are some. -/
  used : 0 < owned p
  /-- No task is in a call. -/
  outside : ∀ t, (p.threads t).access = none
  /-- Nothing has happened yet. -/
  history : p.shared.told = 0 ∧ p.shared.late = false ∧ p.shared.failures = 0

/-- Every interleaving of the accesses of the tasks. -/
def system (Id : Type) [DecidableEq Id] [Fintype Id] : System (Tasks Id) (Id × Call) :=
  Pool.system exec Fresh

/-- There are fewer references than an `int` can count. -/
def Room (p : Tasks Id) (_ : Id × Call) : Prop := p.shared.counter.toInt + 1 < 2 ^ 31

/-- Whether there is room can be computed. -/
instance (p : Tasks Id) (a : Id × Call) : Decidable (Room p a) :=
  inferInstanceAs (Decidable (_ < _))

/-- What reference counting is for. -/
structure Counted (p : Tasks Id) : Prop where
  /-- The counter is the number of references. -/
  counts : p.shared.counter.toInt = owned p
  /-- One task is told that its reference was the last one, when none is left. -/
  told : p.shared.told = if owned p = 0 then 1 else 0
  /-- No reference is taken after that. -/
  never_late : p.shared.late = false

/-- Tasks only try to exchange a counter that was not zero. -/
structure Inv (p : Tasks Id) : Prop where
  /-- References are counted. -/
  counted : Counted p
  /-- What was read is not zero. -/
  read : ∀ t old, (p.threads t).access = some (.exchange old) → old ≠ 0

/-- Taking or dropping references changes the number of all by as many. -/
theorem owned_update (p : Tasks Id) (t : Id) (shared : Counter) (next : Task) :
    owned (Pool.mk shared (Function.update p.threads t next)) + (p.threads t).refs =
      owned p + next.refs :=
  Pool.total_update (Set.toFinite _) t next

omit [DecidableEq Id] in
/-- A task owns no more references than all tasks. -/
theorem refs_le_owned (p : Tasks Id) (t : Id) : (p.threads t).refs ≤ owned p :=
  Pool.le_total (Set.toFinite _) t

/-- A counter with room is incremented. -/
theorem toInt_add_one {value : Int32} (nonneg : 0 ≤ value.toInt)
    (room : value.toInt + 1 < 2 ^ 31) : (value + 1).toInt = value.toInt + 1 := by
  have one : (1 : Int32).toInt = 1 := rfl
  rw [Int32.toInt_add, one]
  exact Int.bmod_eq_of_le (by omega) (by omega)

/-- A counter of some references is decremented. -/
theorem toInt_sub_one {value : Int32} (positive : 0 < value.toInt) :
    (value - 1).toInt = value.toInt - 1 := by
  have one : (1 : Int32).toInt = 1 := rfl
  have most := value.toInt_lt
  rw [Int32.toInt_sub, one]
  exact Int.bmod_eq_of_le (by omega) (by omega)

/-- A counter is zero when nothing is counted. -/
theorem eq_zero_iff (value : Int32) : value = 0 ↔ value.toInt = 0 := by
  rw [← Int32.toInt_inj, Int32.toInt_zero]

/-- Taking a reference while there are some keeps the count. -/
theorem Counted.taken {p : Tasks Id} (counted : Counted p) {t : Id} {next : Task}
    (some_ : p.shared.counter ≠ 0) (room : p.shared.counter.toInt + 1 < 2 ^ 31)
    (more : next.refs = (p.threads t).refs + 1) :
    Counted (Pool.mk (p.shared.store (p.shared.counter + 1) true)
      (Function.update p.threads t next)) := by
  obtain ⟨counts, told, never_late⟩ := counted
  have total := owned_update p t (p.shared.store (p.shared.counter + 1) true) next
  have positive : owned p ≠ 0 := by
    intro none
    rw [Ne, eq_zero_iff, counts, none] at some_
    exact some_ rfl
  rw [if_neg positive] at told
  refine ⟨?_, ?_, ?_⟩
  · have added : (p.shared.counter + 1).toInt = p.shared.counter.toInt + 1 :=
      toInt_add_one (by omega) room
    show (p.shared.counter + 1).toInt = _
    omega
  · rw [if_neg (by omega)]
    exact told
  · show (p.shared.late || true && decide (0 < p.shared.told)) = false
    rw [never_late, told]
    rfl

/-- Dropping a reference keeps the count, and the last one is told. -/
theorem Counted.dropped {p : Tasks Id} (counted : Counted p) {t : Id} {next : Task}
    (owns : (p.threads t).refs ≠ 0) (less : next.refs = (p.threads t).refs - 1) :
    Counted (Pool.mk (refcountDecAndTest p.shared).1 (Function.update p.threads t next)) := by
  obtain ⟨counts, told, never_late⟩ := counted
  have total := owned_update p t (refcountDecAndTest p.shared).1 next
  have part := refs_le_owned p t
  have cut : (p.shared.counter - 1).toInt = p.shared.counter.toInt - 1 :=
    toInt_sub_one (by omega)
  rw [if_neg (by omega)] at told
  refine ⟨?_, ?_, ?_⟩
  · show (p.shared.counter - 1).toInt = _
    omega
  · show (if p.shared.counter - 1 = 0 then p.shared.told + 1 else p.shared.told) = _
    have last : p.shared.counter - 1 = 0 ↔
        owned (Pool.mk (refcountDecAndTest p.shared).1 (Function.update p.threads t next)) = 0 := by
      rw [eq_zero_iff]
      omega
    simp only [last, told]
  · show (p.shared.late || false && decide (0 < p.shared.told)) = false
    rw [never_late]
    rfl

/-- A task that takes and drops nothing keeps the count. -/
theorem Counted.kept {p : Tasks Id} (counted : Counted p) {t : Id} {next : Task} {shared : Counter}
    (same : shared.counter = p.shared.counter ∧ shared.told = p.shared.told ∧
      shared.late = p.shared.late) (refs : next.refs = (p.threads t).refs) :
    Counted (Pool.mk shared (Function.update p.threads t next)) := by
  obtain ⟨counts, told, never_late⟩ := counted
  have total := owned_update p t shared next
  have equal : owned (Pool.mk shared (Function.update p.threads t next)) = owned p := by omega
  refine ⟨?_, ?_, ?_⟩
  · rw [equal, ← counts, same.1]
  · rw [equal, ← told, same.2.1]
  · rw [← never_late, same.2.2]

omit [Fintype Id] in
/-- What was read is not zero after a step, when it is not where the task went on. -/
theorem read_update {threads : Id → Task} {t : Id} {next : Task}
    (read : ∀ t old, (threads t).access = some (.exchange old) → old ≠ 0)
    (here : ∀ old, next.access = some (.exchange old) → old ≠ 0) :
    ∀ u old, (Function.update threads t next u).access = some (.exchange old) → old ≠ 0 := by
  intro u old found
  by_cases same : u = t
  · rw [same, Function.update_self] at found
    exact here old found
  · rw [Function.update_of_ne same] at found
    exact read u old found

/-- An access of `refcount_inc_not_zero` keeps the invariant. -/
theorem Inv.incNotZero {p : Tasks Id} (inv : Inv p) {t : Id} {access : AddUnless}
    (inside : ∀ old, access = .exchange old → old ≠ 0)
    (room : p.shared.counter.toInt + 1 < 2 ^ 31) :
    Inv (Pool.mk (refcountIncNotZero p.shared access).1 (Function.update p.threads t
      ((p.threads t).continue_ (refcountIncNotZero p.shared access).2))) := by
  cases access with
  | read =>
    by_cases zero : p.shared.counter = 0
    · simp only [refcountIncNotZero, atomicAddUnless, if_pos zero, Task.continue_]
      exact ⟨inv.counted.kept ⟨rfl, rfl, rfl⟩ rfl, read_update inv.read fun old found => by
        cases found⟩
    · simp only [refcountIncNotZero, atomicAddUnless, if_neg zero, Task.continue_]
      refine ⟨inv.counted.kept ⟨rfl, rfl, rfl⟩ rfl, read_update inv.read fun old found => ?_⟩
      obtain rfl := AddUnless.exchange.inj (Option.some.inj found)
      exact zero
  | exchange old =>
    by_cases same : p.shared.counter = old
    · subst same
      have some_ : p.shared.counter ≠ 0 := inside _ rfl
      simp only [refcountIncNotZero, atomicAddUnless, if_true, Task.continue_]
      exact ⟨inv.counted.taken some_ room rfl, read_update inv.read fun old found => by cases found⟩
    · simp only [refcountIncNotZero, atomicAddUnless, if_neg same, Task.continue_]
      exact ⟨inv.counted.kept ⟨rfl, rfl, rfl⟩ rfl, read_update inv.read fun old found => by
        cases found⟩

/-- Every access keeps the invariant. -/
theorem Inv.step {p q : Tasks Id} {a : Id × Call} (inv : Inv p) (room : Room p a)
    (stepped : (system Id).step p a = some q) : Inv q := by
  obtain ⟨t, call⟩ := a
  obtain ⟨shared, next, executed, rfl⟩ := Pool.step_eq_some.mp stepped
  unfold exec at executed
  split at executed
  · next access found =>
    obtain ⟨rfl, rfl⟩ := Prod.mk.inj (Option.some.inj executed)
    exact inv.incNotZero (fun old same => inv.read t old (by rw [found, same])) room
  · next idle =>
    cases call with
    | incNotZero =>
      obtain ⟨rfl, rfl⟩ := Prod.mk.inj (Option.some.inj executed)
      have reads : ∀ old, AddUnless.read = .exchange old → old ≠ 0 := fun old same => by cases same
      exact inv.incNotZero reads room
    | inc =>
      obtain ⟨owns, done⟩ := Option.ite_none_left_eq_some.mp executed
      obtain ⟨rfl, rfl⟩ := Prod.mk.inj (Option.some.inj done)
      have some_ : p.shared.counter ≠ 0 := by
        have part := refs_le_owned p t
        have counts := inv.counted.counts
        have positive : (p.threads t).refs ≠ 0 := owns
        rw [Ne, eq_zero_iff]
        omega
      exact ⟨inv.counted.taken some_ room rfl, read_update inv.read fun old found => by cases found⟩
    | decAndTest =>
      obtain ⟨owns, done⟩ := Option.ite_none_left_eq_some.mp executed
      obtain ⟨rfl, rfl⟩ := Prod.mk.inj (Option.some.inj done)
      exact ⟨inv.counted.dropped owns rfl, read_update inv.read fun old found => by cases found⟩

omit [DecidableEq Id] [Fintype Id] in
/-- A fresh counter satisfies the invariant. -/
theorem Fresh.inv {p : Tasks Id} (fresh : Fresh p) : Inv p where
  counted := ⟨fresh.counts, by
    rw [fresh.history.1, if_neg (Nat.pos_iff_ne_zero.mp fresh.used)], fresh.history.2.1⟩
  read t old found := by
    rw [fresh.outside t] at found
    cases found

/-- Two tasks own a reference each, and a third one owns none. -/
def threeTasks : Tasks (Fin 3) :=
  ⟨⟨2, 0, false, 0, 0⟩, fun t => ⟨if t = 2 then 0 else 1, none⟩⟩

/-- The third task tries to take a reference while the others drop theirs. -/
def lateCalls : List (Fin 3 × Call) :=
  [(2, .incNotZero), (0, .decAndTest), (2, .incNotZero), (2, .incNotZero), (1, .decAndTest),
    (2, .incNotZero), (2, .incNotZero)]

/-- The tasks begin with a counter that says how many references there are. -/
theorem fresh_threeTasks : Fresh threeTasks := by
  have two : owned threeTasks = 2 := by
    rw [owned, Pool.total, finsum_eq_sum_of_fintype]
    decide
  exact ⟨by rw [two]; rfl, by rw [two]; exact Nat.two_pos, fun _ => rfl, rfl, rfl, rfl⟩

/-- What a task has read and is going to exchange. -/
def Task.view (task : Task) : Option Int32 :=
  task.access.bind fun access =>
    match access with
    | .read => none
    | .exchange old => some old

/-- Each access is a turn with the counter. -/
theorem exec_turn {c c' : Counter} {task task' : Task} {call : Call}
    (executed : exec c task call = some (c', task')) :
    ExchangeStep Task.view Counter.counter Counter.changes Counter.failures c task c' task' := by
  have tries : ∀ access, task.access = some access ∨ access = .read →
      ExchangeStep Task.view Counter.counter Counter.changes Counter.failures c task
        (refcountIncNotZero c access).1 (task.continue_ (refcountIncNotZero c access).2) := by
    intro access here
    cases access with
    | read =>
      by_cases zero : c.counter = 0
      · simp only [refcountIncNotZero, atomicAddUnless, if_pos zero]
        exact .look rfl rfl rfl fun old found => by cases found
      · simp only [refcountIncNotZero, atomicAddUnless, if_neg zero]
        exact .look rfl rfl rfl fun old found => (Option.some.inj found).symm
    | exchange old =>
      have found : task.access = some (.exchange old) := by
        obtain found | other := here
        · exact found
        · cases other
      by_cases same : c.counter = old
      · simp only [refcountIncNotZero, atomicAddUnless, if_pos same]
        exact .change rfl rfl rfl
      · simp only [refcountIncNotZero, atomicAddUnless, if_neg same]
        have read : task.view = some old := by rw [Task.view, found]; rfl
        exact .lose read (Ne.symm same) rfl rfl rfl rfl
  unfold exec at executed
  split at executed
  · next access found =>
    obtain ⟨rfl, rfl⟩ := Prod.mk.inj (Option.some.inj executed)
    exact tries access (.inl found)
  · cases call with
    | incNotZero =>
      obtain ⟨rfl, rfl⟩ := Prod.mk.inj (Option.some.inj executed)
      exact tries .read (.inr rfl)
    | inc =>
      obtain ⟨-, done⟩ := Option.ite_none_left_eq_some.mp executed
      obtain ⟨rfl, rfl⟩ := Prod.mk.inj (Option.some.inj done)
      exact .change rfl rfl rfl
    | decAndTest =>
      obtain ⟨-, done⟩ := Option.ite_none_left_eq_some.mp executed
      obtain ⟨rfl, rfl⟩ := Prod.mk.inj (Option.some.inj done)
      exact .change rfl rfl rfl

/-- In every run, each store to the counter makes each other task go around the loop of
`atomic_add_unless` once more at most. -/
theorem retries_le {p : Tasks Id} (reach : (system Id).Reachable p) :
    p.shared.failures ≤ p.shared.changes * (Fintype.card Id - 1) :=
  Pool.failures_le (fun _ _ _ _ _ executed => exec_turn executed)
    (fun _ fresh => ⟨fresh.history.2.2, fun t => by rw [Task.view, fresh.outside t]; rfl⟩) reach

/-- Two stores make the third task lose twice. -/
theorem retries_le_threeTasks : ∃ p, (system (Fin 3)).run threeTasks lateCalls = some p ∧
    p.shared.failures = 2 ∧ p.shared.changes = 2 ∧
      p.shared.failures ≤ p.shared.changes * (Fintype.card (Fin 3) - 1) := by
  have ran : ∃ p, (system (Fin 3)).run threeTasks lateCalls = some p ∧ p.shared.failures = 2 ∧
      p.shared.changes = 2 := ⟨_, rfl, rfl, rfl⟩
  obtain ⟨p, executed, failures, changes⟩ := ran
  exact ⟨p, executed, failures, changes,
    retries_le (System.reachable_of_run fresh_threeTasks executed)⟩

end Lcompat.Refcount

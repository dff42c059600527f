import Lcompat.Logic.System

/-!
# Interleaved threads over shared memory

A pool is a shared memory and one local state for each thread identifier; identifiers are
any type, so the number of threads is not bounded. One step picks a thread and a choice of
its environment and executes one atomic action of that thread. Facts about all threads, or
about pairs of threads, are carried through a step by splitting on the thread that moved;
facts about how many threads are at some point, or about a weight that the threads have
together, are carried by the counting lemmas.
-/

namespace Lcompat.Logic

universe u v w x

/-- Where a function continues after a step. -/
inductive Next (Pc Value : Type) where
  /-- At another step. -/
  | goto (pc : Pc)
  /-- At its caller. -/
  | ret (value : Value)

/-- What a classification of the steps of a function says where a step leaves off, given what
it says outside the function. -/
@[simp]
def Next.after {Pc Value Class : Type} (inside : Pc → Class) (outside : Class) :
    Next Pc Value → Class
  | .goto pc => inside pc
  | .ret _ => outside

/-- A caller that remembers what a function works on finds it where the function went on. -/
theorem Next.after_eq_some {Pc Value Object : Type} {next : Next Pc Value} {u v : Object}
    {pc : Pc} (after : next.after (fun pc => some (v, pc)) none = some (u, pc)) :
    u = v ∧ next = .goto pc := by
  cases next <;> simp_all

/-- Shared memory and the local state of every thread. -/
@[ext]
structure Pool (Thread : Type u) (Shared : Type v) (Local : Type w) where
  /-- Memory every thread reads and writes. -/
  shared : Shared
  /-- Program counter and local variables of each thread. -/
  threads : Thread → Local

namespace Pool

variable {Thread : Type u} {Shared : Type v} {Local : Type w} {Choice : Type x}
variable [DecidableEq Thread]

/-- One atomic action of the chosen thread. -/
def step (exec : Shared → Local → Choice → Option (Shared × Local))
    (p : Pool Thread Shared Local) (a : Thread × Choice) : Option (Pool Thread Shared Local) :=
  (exec p.shared (p.threads a.1) a.2).map fun next =>
    ⟨next.1, Function.update p.threads a.1 next.2⟩

/-- The interleavings of all threads from the given initial pools. -/
def system (exec : Shared → Local → Choice → Option (Shared × Local))
    (init : Pool Thread Shared Local → Prop) :
    System (Pool Thread Shared Local) (Thread × Choice) where
  init := init
  step := step exec

variable {exec : Shared → Local → Choice → Option (Shared × Local)}

/-- A step is exactly one action of the chosen thread; no other thread moves. -/
theorem step_eq_some {p q : Pool Thread Shared Local} {a : Thread × Choice} :
    step exec p a = some q ↔
      ∃ shared next, exec p.shared (p.threads a.1) a.2 = some (shared, next) ∧
        q = ⟨shared, Function.update p.threads a.1 next⟩ := by
  constructor
  · intro stepped
    obtain ⟨⟨shared, next⟩, executed, rfl⟩ := Option.map_eq_some_iff.mp stepped
    exact ⟨shared, next, executed, rfl⟩
  · rintro ⟨shared, next, executed, rfl⟩
    simp [step, executed]

/-- A fact about every thread after a step concerns the thread that moved and the others. -/
theorem forall_update {holds : Thread → Local → Prop} {threads : Thread → Local} {t : Thread}
    {next : Local} :
    (∀ u, holds u (Function.update threads t next u)) ↔
      holds t next ∧ ∀ u, u ≠ t → holds u (threads u) :=
  Function.forall_update_iff threads (fun u => holds u)

/-- A thread with some property after a step is the thread that moved or another one. -/
theorem exists_update {holds : Local → Bool} {threads : Thread → Local} {t : Thread}
    {next : Local} :
    (∃ u, holds (Function.update threads t next u) = true) ↔
      holds next = true ∨ ∃ u, u ≠ t ∧ holds (threads u) = true :=
  Function.exists_update_iff threads (fun _ local_ => holds local_ = true)

/-- Finitely many threads stay finitely many when one of them moves. -/
theorem finite_update (active : Local → Prop) {threads : Thread → Local}
    (finite : {u | active (threads u)}.Finite) (t : Thread) (next : Local) :
    {u | active (Function.update threads t next u)}.Finite := by
  refine (finite.insert t).subset fun u moved => ?_
  by_cases same : u = t
  · exact .inl same
  · exact .inr (by simpa [Function.update_of_ne same] using moved)

/-- The sum of the weights of all threads, of which finitely many weigh anything. -/
noncomputable def total (weigh : Local → Nat) (threads : Thread → Local) : Nat :=
  ∑ᶠ u, weigh (threads u)

/-- Moving one thread changes the total by that thread's own weight. -/
theorem total_update {weigh : Local → Nat} {threads : Thread → Local}
    (finite : {u | weigh (threads u) ≠ 0}.Finite) (t : Thread) (next : Local) :
    total weigh (Function.update threads t next) + weigh (threads t) =
      total weigh threads + weigh next := by
  let support := insert t finite.toFinset
  have before : total weigh threads = ∑ u ∈ support, weigh (threads u) := by
    refine finsum_eq_sum_of_support_subset _ fun u heavy => ?_
    simpa [support] using Or.inr heavy
  have after : total weigh (Function.update threads t next) =
      ∑ u ∈ support, Function.update (fun u => weigh (threads u)) t (weigh next) u := by
    rw [total, ← finsum_eq_sum_of_support_subset]
    · exact finsum_congr fun u => Function.apply_update (fun _ => weigh) threads t next u
    · intro u heavy
      by_cases same : u = t
      · simp [support, same]
      · simpa [support, same, Function.update_of_ne same] using heavy
  have inside : t ∈ support := Finset.mem_insert_self ..
  rw [before, after, Finset.sum_update_of_mem inside,
    ← Finset.add_sum_erase support (fun u => weigh (threads u)) inside,
    ← Finset.sdiff_singleton_eq_erase]
  ring

omit [DecidableEq Thread] in
/-- No thread weighs more than all of them. -/
theorem le_total {weigh : Local → Nat} {threads : Thread → Local}
    (finite : {u | weigh (threads u) ≠ 0}.Finite) (t : Thread) :
    weigh (threads t) ≤ total weigh threads :=
  single_le_finsum t finite fun _ => Nat.zero_le _

section Counting

variable [Fintype Thread]

/-- Number of threads whose local state satisfies a predicate. -/
def count (holds : Local → Prop) [DecidablePred holds] (threads : Thread → Local) : Nat :=
  ∑ u, if holds (threads u) then 1 else 0

/-- Moving one thread changes a count by that thread's own contribution. -/
theorem count_update (holds : Local → Prop) [DecidablePred holds] (threads : Thread → Local)
    (t : Thread) (next : Local) :
    count holds (Function.update threads t next) + (if holds (threads t) then 1 else 0) =
      count holds threads + (if holds next then 1 else 0) := by
  have after : count holds (Function.update threads t next) =
      (if holds next then 1 else 0) +
        ∑ u ∈ Finset.univ.erase t, if holds (threads u) then 1 else 0 := by
    rw [count, ← Finset.add_sum_erase _ _ (Finset.mem_univ t), Function.update_self]
    congr 1
    refine Finset.sum_congr rfl fun u member => ?_
    rw [Function.update_of_ne (Finset.ne_of_mem_erase member)]
  have before : count holds threads = (if holds (threads t) then 1 else 0) +
      ∑ u ∈ Finset.univ.erase t, if holds (threads u) then 1 else 0 := by
    rw [count, ← Finset.add_sum_erase _ _ (Finset.mem_univ t)]
  omega

omit [DecidableEq Thread] in
/-- No thread satisfies a predicate exactly when its count is zero. -/
theorem count_eq_zero_iff (holds : Local → Prop) [DecidablePred holds]
    (threads : Thread → Local) : count holds threads = 0 ↔ ∀ u, ¬holds (threads u) := by
  simp [count]

omit [DecidableEq Thread] in
/-- A thread that satisfies a predicate is counted. -/
theorem count_pos (holds : Local → Prop) [DecidablePred holds] {threads : Thread → Local}
    {t : Thread} (member : holds (threads t)) : 0 < count holds threads := by
  by_contra none
  exact (count_eq_zero_iff holds threads).mp (by omega) t member

end Counting

end Pool

end Lcompat.Logic

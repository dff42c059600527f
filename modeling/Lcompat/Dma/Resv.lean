import Lcompat.Dma.Fence

/-!
# Reservation objects

A `struct dma_resv` has a place for one fence: `dma_resv_add_fence` gives back the fence that is
there and keeps the new one, whatever use it is added for, and the tests, the wait and the
iteration look at that one alone. Fences are added and signaled in any order by those who hold
them. A fence that has been released is not to be used, so an access to it has no outcome.
-/

namespace Lcompat.Dma

open Lcompat.Logic

variable {Id Cb Func : Type} [DecidableEq Id]

/-- `enum dma_resv_usage`. -/
inductive Usage where
  /-- `DMA_RESV_USAGE_KERNEL`. -/
  | kernel
  /-- `DMA_RESV_USAGE_WRITE`. -/
  | write
  /-- `DMA_RESV_USAGE_READ`. -/
  | read
  /-- `DMA_RESV_USAGE_BOOKKEEP`. -/
  | bookkeep
  deriving DecidableEq

/-- A reservation object and all fences, with the fences that have been added to it. -/
structure Resv (Id Cb Func : Type) where
  /-- `fence`. -/
  fence : Option Id
  /-- The fences. -/
  fences : Id → Fence Cb Func
  /-- The fences that have been added, newest first; an empty place may be added as well. -/
  added : List (Option Id)

namespace Resv

/-- A fence that has not been released. -/
def load (resv : Resv Id Cb Func) (id : Id) : Option (Fence Cb Func) :=
  if (resv.fences id).refcount.releases = 0 then some (resv.fences id) else none

/-- The fences with one of them replaced. -/
def setFence (resv : Resv Id Cb Func) (id : Id) (fence : Fence Cb Func) : Resv Id Cb Func :=
  { resv with fences := Function.update resv.fences id fence }

/-- `dma_fence_get`, on a fence or on none. -/
def dmaFenceGet (resv : Resv Id Cb Func) : Option Id → Option (Resv Id Cb Func)
  | none => some resv
  | some id => (resv.load id).map fun fence => resv.setFence id fence.get

/-- `dma_fence_put`, on a fence or on none. -/
def dmaFencePut (resv : Resv Id Cb Func) : Option Id → Option (Resv Id Cb Func)
  | none => some resv
  | some id => (resv.load id).bind fun fence => fence.put.map fun fence => resv.setFence id fence

/-- `dma_resv_add_fence`. -/
def addFence (resv : Resv Id Cb Func) (fence : Option Id) (_usage : Usage) :
    Option (Resv Id Cb Func) :=
  (resv.dmaFencePut resv.fence).bind fun resv => (resv.dmaFenceGet fence).map fun resv =>
    { resv with fence, added := fence :: resv.added }

/-- `dma_fence_signal`, on one of the fences. -/
def dmaFenceSignal (resv : Resv Id Cb Func) (id : Id) (now : Int) : Option (Resv Id Cb Func) :=
  (resv.load id).map fun fence => resv.setFence id (fence.signal now)

/-- `dma_resv_test_signaled`, given what `ops->signaled` answers for each fence that has one. -/
def testSignaled (resv : Resv Id Cb Func) (answer : Id → Option Bool) (_usage : Usage) :
    Option Bool :=
  match resv.fence with
  | none => some true
  | some id => (resv.load id).map fun fence => fence.isSignaled (answer id)

/-- `dma_resv_wait_timeout`. -/
def waitTimeout (resv : Resv Id Cb Func) (answer : Id → Option Bool) (usage : Usage)
    (_intr : Bool) (timeout : UInt64) : Option Int64 :=
  (resv.testSignaled answer usage).map fun test => if test then timeout.toInt64 else 0

/-- `struct dma_resv_iter`, without the object it walks over. -/
structure Iter (Id : Type) where
  /-- `fence`. -/
  fence : Option Id
  /-- `usage`. -/
  usage : Usage
  /-- `done`. -/
  done : Bool

/-- `dma_resv_iter_begin`. -/
def iterBegin (resv : Resv Id Cb Func) (usage : Usage) : Iter Id := ⟨resv.fence, usage, false⟩

/-- The loop of `dma_resv_for_each_fence` from a fence on: the fences it visits, if it comes to an
end in some turns. -/
def forEachFrom : Nat → Iter Id → Option Id → Option (List Id)
  | 0, _, _ => none
  | turns + 1, iter, fence =>
    match iter.done, fence with
    | false, some id => (forEachFrom turns { iter with done := true } none).map fun rest =>
      id :: rest
    | _, _ => some []

/-- `dma_resv_for_each_fence`: the fences it visits. -/
def forEachFence (resv : Resv Id Cb Func) (usage : Usage) : Option (List Id) :=
  forEachFrom 2 (resv.iterBegin usage) (resv.iterBegin usage).fence

end Resv

/-- A call that changes a reservation object or its fences. -/
inductive ResvCall (Id : Type) where
  /-- `dma_resv_add_fence`, with a fence or none. -/
  | add (fence : Option Id) (usage : Usage)
  /-- `dma_fence_signal`, and what the clock reads. -/
  | signal (id : Id) (now : Int)

/-- What a call makes of a reservation object and of the fences. -/
def ResvCall.run (resv : Resv Id Cb Func) : ResvCall Id → Option (Resv Id Cb Func)
  | .add fence usage => resv.addFence fence usage
  | .signal id now => resv.dmaFenceSignal id now

/-- Every sequence of calls on an object that has been initialised, with fences that have been
initialised by those who hold them. -/
def resvs (Id Cb Func : Type) [DecidableEq Id] [DecidableEq Cb] :
    System (Resv Id Cb Func) (ResvCall Id) where
  init resv := resv.fence = none ∧ resv.added = [] ∧ ∀ id, ∃ ops, resv.fences id = .init ops
  step := ResvCall.run

/-- The fence added last, if there is one. -/
def Resv.last (resv : Resv Id Cb Func) : Option Id := resv.added.head?.join

/-- The object keeps the fence added last, and every fence is held by who initialised it and by
the object it is in. -/
structure Resv.Holds (resv : Resv Id Cb Func) : Prop where
  /-- The fence added last is kept. -/
  last : resv.fence = resv.last
  /-- Every reference is owned. -/
  owned : ∀ id, (resv.fences id).refcount.refCount = if resv.fence = some id then 2 else 1
  /-- No fence is released. -/
  alive : ∀ id, (resv.fences id).refcount.releases = 0

variable {resv resv' : Resv Id Cb Func}

/-- No fence is released, so each can be used. -/
theorem Resv.Holds.load (holds : resv.Holds) (id : Id) :
    resv.load id = some (resv.fences id) := by
  rw [Resv.load, if_pos (holds.alive id)]

/-- A fence is given back to who else holds it. -/
theorem Resv.Holds.dmaFencePut (holds : resv.Holds)
    (put : resv.dmaFencePut resv.fence = some resv') :
    resv'.fence = resv.fence ∧ resv'.added = resv.added ∧
      (∀ id, (resv'.fences id).refcount.refCount = 1) ∧
      ∀ id, (resv'.fences id).refcount.releases = 0 := by
  cases here : resv.fence with
  | none =>
    rw [here] at put
    obtain rfl := Option.some.inj put
    refine ⟨here, rfl, fun id => ?_, holds.alive⟩
    rw [holds.owned id, here, if_neg (by simp)]
  | some id =>
    rw [here, Resv.dmaFencePut, holds.load, Option.bind_some] at put
    obtain ⟨fence, dropped, rfl⟩ := Option.map_eq_some_iff.mp put
    have twice : (resv.fences id).refcount.refCount = 2 := by rw [holds.owned id, if_pos here]
    have fence : fence = { resv.fences id with refcount := (resv.fences id).refcount.unref } := by
      unfold Fence.put at dropped
      split at dropped
      · rw [Fence.krefPut, if_neg (by simp [Kref.unref, twice])] at dropped
        exact (Option.some.inj dropped).symm
      · cases dropped
    refine ⟨here, rfl, fun other => ?_, fun other => ?_⟩
    · by_cases same : other = id
      · subst same
        simp [Resv.setFence, fence, Kref.unref, twice]
      · have apart : ¬ resv.fence = some other := by
          rw [here, Option.some.injEq]
          exact Ne.symm same
        simp [Resv.setFence, same, holds.owned other, apart]
    · by_cases same : other = id
      · subst same
        simp [Resv.setFence, fence, Kref.unref, holds.alive other]
      · simp [Resv.setFence, same, holds.alive other]

/-- A fence that is added takes the place of the one that is there. -/
theorem Resv.Holds.addFence (holds : resv.Holds) {fence : Option Id} (usage : Usage)
    (added : resv.addFence fence usage = some resv') : resv'.Holds := by
  obtain ⟨resv₁, put, added⟩ := Option.bind_eq_some_iff.mp added
  obtain ⟨resv₂, got, rfl⟩ := Option.map_eq_some_iff.mp added
  obtain ⟨-, -, owned, alive⟩ := holds.dmaFencePut put
  cases fence with
  | none =>
    obtain rfl := Option.some.inj got
    exact ⟨rfl, fun id => by simp [owned id], alive⟩
  | some id =>
    rw [Resv.dmaFenceGet, Resv.load, if_pos (alive id), Option.map_some] at got
    obtain rfl := Option.some.inj got
    refine ⟨rfl, fun other => ?_, fun other => ?_⟩
    · by_cases same : other = id
      · subst same
        simp [Resv.setFence, Fence.get, Kref.ref, owned other]
      · have apart : ¬ id = other := Ne.symm same
        simp [Resv.setFence, same, apart, owned other]
    · by_cases same : other = id
      · subst same
        simp [Resv.setFence, Fence.get, Kref.ref, alive other]
      · simp [Resv.setFence, same, alive other]

/-- A fence that is signaled stays where it is. -/
theorem Resv.Holds.dmaFenceSignal (holds : resv.Holds) {id : Id} {now : Int}
    (signaled : resv.dmaFenceSignal id now = some resv') : resv'.Holds := by
  rw [Resv.dmaFenceSignal, holds.load, Option.map_some] at signaled
  obtain rfl := Option.some.inj signaled
  have counts : ∀ other, ((resv.setFence id ((resv.fences id).signal now)).fences other).refcount =
      (resv.fences other).refcount := by
    intro other
    by_cases same : other = id
    · subst same
      simp [Resv.setFence, Fence.signal]
    · simp [Resv.setFence, same]
  refine ⟨holds.last, fun other => ?_, fun other => ?_⟩
  · rw [counts other]
    exact holds.owned other
  · rw [counts other]
    exact holds.alive other

/-- In every run the object keeps the fence added last. -/
theorem holds_of_reachable [DecidableEq Cb] (reach : (resvs Id Cb Func).Reachable resv) :
    resv.Holds := by
  refine reach.invariant Resv.Holds ?_ ?_
  · rintro resv ⟨empty, added, fresh⟩
    refine ⟨?_, fun id => ?_, fun id => ?_⟩
    · rw [empty, Resv.last, added]
      rfl
    · obtain ⟨ops, fresh⟩ := fresh id
      rw [fresh, empty, if_neg (by simp)]
      rfl
    · obtain ⟨ops, fresh⟩ := fresh id
      rw [fresh]
      rfl
  · intro resv call resv' holds _ ran
    cases call with
    | add fence usage => exact holds.addFence usage ran
    | signal id now => exact holds.dmaFenceSignal ran

/-- Fences that have operations can be added at any time, and none is released by that. -/
theorem Resv.Holds.exists_addFence (holds : resv.Holds) (ops : ∀ id, (resv.fences id).ops = true)
    (fence : Option Id) (usage : Usage) : ∃ resv', resv.addFence fence usage = some resv' := by
  obtain ⟨resv₁, put⟩ : ∃ resv₁, resv.dmaFencePut resv.fence = some resv₁ := by
    cases here : resv.fence with
    | none => exact ⟨resv, rfl⟩
    | some id =>
      rw [Resv.dmaFencePut, holds.load, Option.bind_some, Fence.put, if_pos (ops id)]
      exact ⟨_, rfl⟩
  obtain ⟨-, -, -, alive⟩ := holds.dmaFencePut put
  rw [Resv.addFence, put, Option.bind_some]
  cases fence with
  | none => exact ⟨_, rfl⟩
  | some id =>
    rw [Resv.dmaFenceGet, Resv.load, if_pos (alive id)]
    exact ⟨_, rfl⟩

omit [DecidableEq Id] in
/-- The iteration visits the fence that is kept. -/
theorem Resv.forEachFence_eq (resv : Resv Id Cb Func) (usage : Usage) :
    resv.forEachFence usage = some resv.fence.toList := by
  cases here : resv.fence <;> simp [Resv.forEachFence, Resv.iterBegin, Resv.forEachFrom, here]

/-- In every run a reservation object tests signaled, and a wait with a timeout succeeds, if and
only if the fence added last is signaled or there is none, and the iteration visits that fence. -/
theorem resv_keeps_last [DecidableEq Cb] (reach : (resvs Id Cb Func).Reachable resv)
    (answer : Id → Option Bool) (usage : Usage) :
    (∃ test, resv.testSignaled answer usage = some test ∧
      (test = true ↔ ∀ id, resv.last = some id → (resv.fences id).isSignaled (answer id) = true)) ∧
    (∀ intr timeout, timeout ≠ 0 → ∃ left,
      resv.waitTimeout answer usage intr timeout = some left ∧
        (left ≠ 0 ↔ ∀ id, resv.last = some id → (resv.fences id).isSignaled (answer id) = true)) ∧
    resv.forEachFence usage = some resv.last.toList := by
  have holds := holds_of_reachable reach
  have tests : ∃ test, resv.testSignaled answer usage = some test ∧ (test = true ↔
      ∀ id, resv.last = some id → (resv.fences id).isSignaled (answer id) = true) := by
    rw [Resv.testSignaled, ← holds.last]
    cases resv.fence with
    | none => exact ⟨true, rfl, by simp⟩
    | some id =>
      show ∃ test, (resv.load id).map _ = some test ∧ _
      rw [holds.load, Option.map_some]
      exact ⟨_, rfl, by simp⟩
  refine ⟨tests, ?_, ?_⟩
  · intro intr timeout nonzero
    obtain ⟨test, tested, exactly⟩ := tests
    refine ⟨_, by rw [Resv.waitTimeout, tested, Option.map_some], ?_⟩
    rw [← exactly]
    have kept : timeout.toInt64 ≠ 0 := by
      intro zero
      exact nonzero (UInt64.toBitVec_inj.mp (Int64.toBitVec_inj.mpr zero))
    cases test with
    | false => simp
    | true => simp [kept]
  · rw [resv.forEachFence_eq, holds.last]

/-- Two fences are added and the second is signaled: the object tests signaled. -/
theorem resv_keeps_last_second : ∃ resv : Resv Nat Nat Nat, resv.added = [some 1, some 0] ∧
    ∃ test, resv.testSignaled (fun _ => none) .bookkeep = some test ∧ (test = true ↔
      ∀ id, resv.last = some id → (resv.fences id).isSignaled none = true) := by
  have ran : ((resvs Nat Nat Nat).run ⟨none, fun _ => .init true, []⟩
      [.add (some 0) .write, .add (some 1) .read, .signal 1 7]).map (fun resv => resv.added) =
        some [some 1, some 0] := by
    decide +kernel
  obtain ⟨resv, ran, added⟩ := Option.map_eq_some_iff.mp ran
  have fresh : (resvs Nat Nat Nat).init ⟨none, fun _ => .init true, []⟩ :=
    ⟨rfl, rfl, fun _ => ⟨true, rfl⟩⟩
  have reach := System.reachable_of_run fresh ran
  exact ⟨resv, added, (resv_keeps_last reach (fun _ => none) .bookkeep).1⟩

/-- A fence that is not signaled is forgotten when another is added: the object tests signaled, a
wait succeeds and the iteration does not visit it. -/
theorem unsignaled_fence_forgotten : ∃ resv : Resv Nat Nat Nat,
    (resvs Nat Nat Nat).Reachable resv ∧ some 0 ∈ resv.added ∧
      (resv.fences 0).isSignaled none = false ∧
      resv.testSignaled (fun _ => none) .bookkeep = some true ∧
      resv.waitTimeout (fun _ => none) .bookkeep false 5 = some 5 ∧
      resv.forEachFence .bookkeep = some [1] := by
  have ran : ((resvs Nat Nat Nat).run ⟨none, fun _ => .init true, []⟩
      [.add (some 0) .write, .add (some 1) .read, .signal 1 7]).map (fun resv =>
        ((resv.added, (resv.fences 0).isSignaled none, resv.forEachFence .bookkeep),
          resv.testSignaled (fun _ => none) .bookkeep,
          resv.waitTimeout (fun _ => none) .bookkeep false 5)) =
        some (([some 1, some 0], false, some [1]), some true, some 5) := by
    decide +kernel
  obtain ⟨resv, ran, found⟩ := Option.map_eq_some_iff.mp ran
  simp only [Prod.mk.injEq] at found
  obtain ⟨⟨added, pending, visited⟩, test, left⟩ := found
  have fresh : (resvs Nat Nat Nat).init ⟨none, fun _ => .init true, []⟩ :=
    ⟨rfl, rfl, fun _ => ⟨true, rfl⟩⟩
  have reach := System.reachable_of_run fresh ran
  exact ⟨resv, reach, by simp [added], pending, test, left, visited⟩

end Lcompat.Dma

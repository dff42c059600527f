import Lcompat.Workqueue.Service

/-!
# A queue with any number of workers

The creation of workers is guarded so that a queue has one, but it may come to have more. The list
of a queue is in order whatever the workers are: they take items out of it inside locked sections,
and an item is marked `QUEUED` from before its append to after it has left the list. The count of
active workers follows the workers between the pop of an item and their closing section.
-/

namespace Lcompat.Workqueue

open Lcompat.Logic

variable {Id Item : Type} [DecidableEq Item]

/-- A queue with an empty list, any number of workers about to look for their first item, new
items, and nobody else inside a function of the queue. -/
structure Staffed (p : Tasks Id Item) : Prop where
  /-- The list is empty. -/
  list : (p.shared.queues ()).head = none ∧ (p.shared.queues ()).tail = none
  /-- No worker is active. -/
  active : (p.shared.queues ()).active = 0
  /-- The items are new, delayed or not. -/
  items : ∀ w, p.shared.works w = .init (p.shared.works w).delayedOwner
  /-- Tasks are workers or clients. -/
  tasks : ∀ t, p.threads t = .idle ∨ p.threads t = .worker .pop

omit [DecidableEq Item] in
/-- A new queue has no workers yet. -/
theorem Fresh.staffed {p : Tasks Id Item} (fresh : Fresh p) : Staffed p := by
  refine ⟨?_, ?_, fresh.items, fun t => .inl (fresh.idle t)⟩
  · rw [fresh.queue]
    exact ⟨rfl, rfl⟩
  · rw [fresh.queue]
    rfl

/-- The list is in order and nothing has a `QUEUED` bit twice, whatever the workers are. -/
structure Ledger.Sound (l : Ledger Item) (hands : Id → Hand Item) : Prop where
  /-- No item is in the list twice. -/
  nodup : l.nodes.Nodup
  /-- Items in the list are `QUEUED`. -/
  member : ∀ w ∈ l.nodes, (l.state w).queued = true
  /-- Items in a hand are `QUEUED` and not in the list. -/
  held : ∀ t w, (hands t).Holds w → (l.state w).queued = true ∧ w ∉ l.nodes
  /-- No two hands hold one item. -/
  one_holder : ∀ t u w, t ≠ u → ¬((hands t).Holds w ∧ (hands u).Holds w)

/-- Every step keeps the list in order. -/
theorem Ledger.Sound.step [DecidableEq Id] {l l' : Ledger Item} {hands : Id → Hand Item} {t : Id}
    {hand : Hand Item} (sound : l.Sound hands) (stepped : Ledger.Step l (hands t) l' hand) :
    l'.Sound (Function.update hands t hand) := by
  obtain ⟨nodup, member, held, one_holder⟩ := sound
  generalize here : hands t = before at stepped
  cases stepped with
  | keep =>
    rw [← here, Function.update_eq_self]
    exact ⟨nodup, member, held, one_holder⟩
  | ask w | refuse w | claim w clear | clear w | arm w idle | link w | disarm w | fire w =>
    constructor <;> grind -ring -linarith [Hand.Holds]
  | append w => constructor <;> grind -ring -linarith [Hand.Holds]
  | remove w inList => constructor <;> grind -ring -linarith [Hand.Holds]
  | pop w rest first => constructor <;> grind -ring -linarith [Hand.Holds]
  | accept w | pass w clear | finish w | close w =>
    constructor <;> grind -ring -linarith [Hand.Holds]

/-- The worker stands between the pop of an item and its closing section. -/
@[simp]
def WorkerPc.inside : WorkerPc Item → Bool
  | .pop | .block => false
  | .load _ | .cas _ _ | .setRunning _ | .call _ | .inFunc _ | .clearRunning _ | .clearState _
  | .close _ => true

/-- The task is a worker between the pop of an item and its closing section. -/
@[simp]
def Task.inside : Task Item → Bool
  | .worker pc => pc.inside
  | .idle | .queueing _ _ | .cancelling _ _ => false

/-- The ledger describes the queue and is in order, and the active workers are counted. -/
structure Staff (p : Tasks Id Item) (l : Ledger Item) : Prop where
  /-- The ledger is that of the queue. -/
  models : Models () p.shared l
  /-- The list is in order. -/
  ledger : l.Sound fun t => (p.threads t).hand
  /-- Finitely many workers are active. -/
  finite : {t | (p.threads t).inside = true}.Finite
  /-- The active workers are counted. -/
  active : (p.shared.queues ()).active = {t | (p.threads t).inside = true}.ncard

omit [DecidableEq Item] in
/-- A staffed queue has an empty ledger. -/
theorem Staffed.staff {p : Tasks Id Item} (staffed : Staffed p) :
    Staff p ⟨[], fun _ => ⟨false, false⟩, fun _ => false⟩ := by
  have models : Models () p.shared ⟨[], fun _ => ⟨false, false⟩, fun _ => false⟩ := by
    refine ⟨?_, fun w => ?_, fun w => ?_⟩
    · rw [Memory.list, staffed.list.1, staffed.list.2]
      exact LinkedQueue.repr_empty p.shared.next
    · rw [staffed.items w]
      rfl
    · rw [staffed.items w]
      simp [WorkStruct.init]
  have none_ : ∀ t w, ¬(p.threads t).hand.Holds w := by
    intro t w
    obtain idle | working := staffed.tasks t
    · rw [idle]
      exact id
    · rw [working]
      exact id
  have outside : {t | (p.threads t).inside = true} = ∅ := by
    ext t
    obtain idle | working := staffed.tasks t
    · simp [idle]
    · simp [working]
  refine ⟨models, ⟨.nil, ?_, ?_, ?_⟩, ?_, ?_⟩
  · exact fun w member => absurd member List.not_mem_nil
  · exact fun t w holds => absurd holds (none_ t w)
  · exact fun t u w apart both => none_ t w both.1
  · rw [outside]
    exact Set.finite_empty
  · rw [outside, Set.ncard_empty]
    exact staffed.active

/-- `lcompat_queue_work` leaves the count of active workers alone. -/
theorem queueWork_active (w : Item) (env : Env) (m : QueueMemory Item) (pc : QueuePc) :
    ((queueWork () w env m pc).1.queues ()).active = (m.queues ()).active := by
  cases pc with
  | ensure pc =>
    have ensured : ((workqueueEnsureWorker () env m pc).1.queues ()).active =
        (m.queues ()).active := by
      cases pc with
      | casStarting | create =>
        simp only [workqueueEnsureWorker]
        split <;> simp
      | loadTask | storeTask | clearStarting | clearFailed | spinStarting | spinTask | result =>
        simp [workqueueEnsureWorker]
    rcases went : workqueueEnsureWorker () env m pc with ⟨m', pc' | ready⟩ <;>
      simpa [queueWork, went] using ensured
  | load => simp [queueWork]
  | cas running =>
    by_cases same : (m.works w).state = ⟨false, running⟩ <;> simp [queueWork, same]
  | append => simp [queueWork]
  | wake pc =>
    cases pc with
    | loadTask => cases found : (m.queues ()).workerTask <;> simp [queueWork, workqueueWake, found]
    | loadWaiting =>
      cases waiting : (m.queues ()).workerWaiting <;> simp [queueWork, workqueueWake, waiting]
    | unblock => simp [queueWork, workqueueWake]

/-- How a step bears on the active workers: the worker is counted when it pops an item, and no
longer after its closing section. -/
inductive Counted : Nat → Bool → Nat → Bool → Prop
  /-- Nothing changes. -/
  | keep (active : Nat) (inside : Bool) : Counted active inside active inside
  /-- An item is popped. -/
  | enter (active : Nat) : Counted active false (active + 1) true
  /-- The closing section. -/
  | leave (active : Nat) : Counted active true (active - 1) false

/-- The worker is counted between the pop of an item and its closing section. -/
theorem workqueueWorker_active (m : QueueMemory Item) (pc : WorkerPc Item) :
    Counted (m.queues ()).active pc.inside ((workqueueWorker () m pc).1.queues ()).active
      (workqueueWorker () m pc).2.inside := by
  cases pc with
  | pop =>
    rcases popped : (m.list ()).pop with ⟨l, _ | w⟩
    · simpa [workqueueWorker, workqueuePopLocked, popped] using Counted.keep _ false
    · simpa [workqueueWorker, workqueuePopLocked, popped] using Counted.enter _
  | block =>
    cases pending : (m.queues ()).unblocked <;>
      simpa [workqueueWorker, pending] using Counted.keep _ false
  | load w =>
    cases queued : (m.works w).state.queued <;>
      simpa [workqueueWorker, queued] using Counted.keep _ true
  | cas w running =>
    by_cases same : (m.works w).state = ⟨true, running⟩ <;>
      simpa [workqueueWorker, same] using Counted.keep _ true
  | setRunning w | call w | inFunc w | clearRunning w | clearState w =>
    simpa [workqueueWorker] using Counted.keep _ true
  | close w => simpa [workqueueWorker, workqueueClose] using Counted.leave _

variable [Fintype Item]

/-- Cancelling leaves the count of active workers alone. -/
theorem cancelWorkSync_active {w : Item} {m m' : QueueMemory Item} {pc : CancelPc Unit}
    {next : Next (CancelPc Unit) Bool} (ran : cancelWorkSync w m pc = some (m', next)) :
    (m'.queues ()).active = (m.queues ()).active := by
  cases pc with
  | loadWq | spin canceled =>
    obtain ⟨rfl, -⟩ : m = m' ∧ _ := by simpa [cancelWorkSync] using ran
    rfl
  | clearQueued =>
    obtain ⟨rfl, -⟩ : m.setWork w _ = m' ∧ _ := by simpa [cancelWorkSync] using ran
    rfl
  | remove q =>
    obtain ⟨⟨m'', found⟩, removed, same⟩ := Option.map_eq_some_iff.mp ran
    obtain ⟨⟨l, unlinked⟩, -, stored⟩ := Option.map_eq_some_iff.mp removed
    cases unlinked with
    | true =>
      obtain ⟨rfl, rfl⟩ := Prod.mk.inj stored
      obtain ⟨rfl, -⟩ := Prod.mk.inj same
      simp
    | false =>
      obtain ⟨rfl, rfl⟩ := Prod.mk.inj stored
      obtain ⟨rfl, -⟩ := Prod.mk.inj same
      rfl

/-- Every step of a task counts the active workers. -/
theorem exec_active {m m' : QueueMemory Item} {task task' : Task Item} {choice : Choice Item}
    (ran : exec m task choice = some (m', task')) :
    Counted (m.queues ()).active task.inside (m'.queues ()).active task'.inside := by
  cases task with
  | idle =>
    cases choice with
    | queue w | cancel w =>
      obtain ⟨rfl, rfl⟩ : m = m' ∧ _ = task' := by simpa [exec] using ran
      exact .keep _ _
    | begin =>
      obtain ⟨-, rfl, rfl⟩ : _ ∧ _ = m' ∧ _ = task' := by simpa [exec] using ran
      simpa using Counted.keep _ false
    | go env => simp [exec] at ran
  | queueing w pc =>
    cases choice with
    | go env =>
      have kept := queueWork_active w env m pc
      rcases went : queueWork () w env m pc with ⟨m'', pc' | accepted⟩ <;>
        simp only [exec, went, Option.some.injEq, Prod.mk.injEq] at ran <;>
        obtain ⟨rfl, rfl⟩ := ran <;>
        rw [went] at kept <;>
        rw [kept] <;>
        exact .keep _ false
    | queue _ | cancel _ | begin => simp [exec] at ran
  | cancelling w pc =>
    cases choice with
    | go env =>
      obtain ⟨⟨m'', next⟩, went, same⟩ := Option.map_eq_some_iff.mp ran
      have kept := cancelWorkSync_active went
      cases next <;>
        simp only [Prod.mk.injEq] at same <;>
        obtain ⟨rfl, rfl⟩ := same <;>
        rw [kept] <;>
        exact .keep _ false
    | queue _ | cancel _ | begin => simp [exec] at ran
  | worker pc =>
    cases choice with
    | go env =>
      obtain ⟨rfl, rfl⟩ : _ = m' ∧ _ = task' := by simpa [exec] using ran
      exact workqueueWorker_active m pc
    | queue _ | cancel _ | begin => simp [exec] at ran

variable [DecidableEq Id]

/-- Who is inside is counted when one thread moves. -/
theorem Counted.ncard {Local : Type} (inside : Local → Bool) {threads : Id → Local} {t : Id}
    {next : Local} {active active' : Nat}
    (counted : Counted active (inside (threads t)) active' (inside next))
    (finite : {u | inside (threads u) = true}.Finite)
    (before : active = {u | inside (threads u) = true}.ncard) :
    {u | inside (Function.update threads t next u) = true}.Finite ∧
      active' = {u | inside (Function.update threads t next u) = true}.ncard := by
  refine ⟨Pool.finite_update (fun task => inside task = true) finite t next, ?_⟩
  generalize from_ : inside (threads t) = here at counted
  generalize to_ : inside next = there at counted
  cases counted with
  | keep =>
    have same : {u | inside (Function.update threads t next u) = true} =
        {u | inside (threads u) = true} := by
      ext u
      by_cases moved : u = t
      · subst moved
        simp [from_, to_]
      · simp [Function.update_of_ne moved]
    rw [same]
    exact before
  | enter =>
    have more : {u | inside (Function.update threads t next u) = true} =
        insert t {u | inside (threads u) = true} := by
      ext u
      by_cases moved : u = t
      · subst moved
        simp [to_]
      · simp [moved]
    rw [more, Set.ncard_insert_of_notMem (by simp [from_]) finite, before]
  | leave =>
    have fewer : {u | inside (Function.update threads t next u) = true} =
        {u | inside (threads u) = true} \ {t} := by
      ext u
      by_cases moved : u = t
      · subst moved
        simp [to_]
      · simp [moved]
    rw [fewer, Set.ncard_sdiff_singleton_of_mem (by simp [from_]), before]

/-- Every step of every task is a step of the ledger, or a worker begins. -/
theorem Staff.step {p q : Tasks Id Item} {l : Ledger Item} {a : Id × Choice Item}
    (staff : Staff p l) (stepped : Pool.step exec p a = some q) :
    ∃ l', Staff q l' ∧ (Ledger.Step l (p.threads a.1).hand l' (q.threads a.1).hand ∨
      l' = l ∧ p.threads a.1 = .idle ∧ q.threads a.1 = .worker .pop) := by
  obtain ⟨shared, next, ran, rfl⟩ := Pool.step_eq_some.mp stepped
  obtain ⟨models, ledger, finite, active⟩ := staff
  have fresh : ∀ w, (p.threads a.1).hand = .appending w → w ∉ l.nodes := fun w appending =>
    (ledger.held a.1 w (by rw [appending]; rfl)).2
  have hands : (fun t => (Function.update p.threads a.1 next t).hand) =
      Function.update (fun t => (p.threads t).hand) a.1 next.hand :=
    funext fun t => Function.apply_update (fun _ => Task.hand) p.threads a.1 next t
  obtain ⟨finite', active'⟩ := (exec_active ran).ncard Task.inside finite active
  obtain ⟨l', models', moved⟩ | ⟨-, models', idle, begun⟩ := exec_ledger_or_begins models fresh ran
  · refine ⟨l', ⟨models', ?_, finite', active'⟩, .inl (by simpa using moved)⟩
    simpa only [hands] using ledger.step moved
  · refine ⟨l, ⟨models', ?_, finite', active'⟩, .inr ⟨rfl, idle, by simpa using begun⟩⟩
    obtain ⟨nodup, member, held, one_holder⟩ := ledger
    subst begun
    constructor <;> grind -ring -linarith [Hand.Holds, Task.hand, WorkerPc.hand]

/-- Every reachable state of a staffed queue has a ledger. -/
theorem Staff.of_reach {init : Tasks Id Item → Prop} (staffed : ∀ p, init p → Staffed p)
    {p : Tasks Id Item} (reach : (tasks init).Reachable p) : ∃ l, Staff p l := by
  refine reach.invariant (fun p => ∃ l, Staff p l) ?_ ?_
  · exact fun p initial => ⟨_, (staffed p initial).staff⟩
  · rintro p a q ⟨l, staff⟩ - stepped
    obtain ⟨l', after, -⟩ := staff.step stepped
    exact ⟨l', after⟩

end Lcompat.Workqueue

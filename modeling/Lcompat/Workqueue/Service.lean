import Lcompat.Workqueue.Ensure
import Lcompat.Workqueue.Ledger

/-!
# A queue with its worker

The runs of a queue whose one worker exists from the beginning. No task creates another one,
and the ledger of the queue keeps its invariant through every step of every task.
-/

namespace Lcompat.Workqueue

open Lcompat.Logic

variable {Id Item : Type} [DecidableEq Item]

/-- A queue with one worker about to look for its first item, new items, and nobody else
inside a function of the queue. -/
structure Served (p : Tasks Id Item) : Prop where
  /-- The queue is new but for its worker. -/
  queue : p.shared.queues () =
    { WorkqueueStruct.alloc with workerTask := true, workersCreated := 1 }
  /-- The items are new, delayed or not. -/
  items : ∀ w, p.shared.works w = .init (p.shared.works w).delayedOwner
  /-- One task is the worker. -/
  worker : ∃ t, p.threads t = .worker .pop ∧ ∀ u, u ≠ t → p.threads u = .idle

/-- The worker is published, none is waiting to begin, and no task is creating one. -/
structure Crew.Settled (c : Crew) (roles : Id → Role) : Prop where
  /-- The worker is published. -/
  task : c.task = true
  /-- No other worker was created. -/
  unstarted : c.unstarted = 0
  /-- Tasks are callers or the worker. -/
  roles : ∀ t, roles t = .outside ∨ roles t = .worker

/-- Nothing changes in a settled crew. -/
theorem Crew.Settled.step {c c' : Crew} {roles : Id → Role} {t : Id} {role : Role}
    (settled : Crew.Settled c roles) (stepped : Crew.Step c (roles t) c' role) :
    c' = c ∧ role = roles t := by
  obtain ⟨task, unstarted, known⟩ := settled
  generalize here : roles t = before at stepped
  cases stepped with
  | keep => exact ⟨rfl, rfl⟩
  | look none => simp [task] at none
  | begin waiting => omega
  | wait | claim | create | fail | publish | leave => simpa [here] using known t

/-- What a task has in hand. -/
@[simp]
def Task.hand : Task Item → Hand Item
  | .idle => .free
  | .queueing w pc => pc.hand w
  | .cancelling w pc => pc.hand w
  | .worker pc => pc.hand

variable [Fintype Item]

/-- A step of a task is a step of the ledger, when an item about to be appended is not in the list,
or a worker begins. -/
theorem exec_ledger_or_begins {m m' : QueueMemory Item} {l : Ledger Item} (models : Models () m l)
    {task task' : Task Item} {choice : Choice Item}
    (fresh : ∀ w, task.hand = .appending w → w ∉ l.nodes)
    (ran : exec m task choice = some (m', task')) :
    (∃ l', Models () m' l' ∧ Ledger.Step l task.hand l' task'.hand) ∨
      0 < (m.queues ()).workersUnstarted ∧ Models () m' l ∧ task = .idle ∧
        task' = .worker .pop := by
  cases task with
  | idle =>
    cases choice with
    | queue w =>
      obtain ⟨rfl, rfl⟩ : m = m' ∧ _ = task' := by simpa [exec] using ran
      exact .inl ⟨l, models, .ask l w⟩
    | cancel w =>
      obtain ⟨rfl, rfl⟩ : m = m' ∧ _ = task' := by simpa [exec] using ran
      exact .inl ⟨l, models, .keep _ _⟩
    | begin =>
      obtain ⟨waiting, rfl, rfl⟩ : 0 < (m.queues ()).workersUnstarted ∧ _ = m' ∧ _ = task' := by
        simpa [exec] using ran
      exact .inr ⟨waiting, models.setQueue_keep ⟨rfl, rfl⟩, rfl, rfl⟩
    | go env => simp [exec] at ran
  | queueing w pc =>
    cases choice with
    | go env =>
      have queued := queueWork_ledger models w env pc fun here => fresh w (by simp [here])
      refine .inl ?_
      rcases went : queueWork () w env m pc with ⟨m'', pc' | accepted⟩ <;>
        simp only [exec, went, Option.some.injEq, Prod.mk.injEq] at ran <;>
        obtain ⟨rfl, rfl⟩ := ran <;>
        simpa [went] using queued
    | queue _ | cancel _ | begin => simp [exec] at ran
  | cancelling w pc =>
    cases choice with
    | go env =>
      obtain ⟨⟨m'', next⟩, went, same⟩ := Option.map_eq_some_iff.mp ran
      have cancelled := cancelWorkSync_ledger models (fun _ _ => rfl) went
      refine .inl ?_
      cases next <;>
        simp only [Prod.mk.injEq] at same <;>
        obtain ⟨rfl, rfl⟩ := same <;>
        exact cancelled
    | queue _ | cancel _ | begin => simp [exec] at ran
  | worker pc =>
    cases choice with
    | go env =>
      obtain ⟨rfl, rfl⟩ : _ = m' ∧ _ = task' := by simpa [exec] using ran
      exact .inl (workqueueWorker_ledger models pc)
    | queue _ | cancel _ | begin => simp [exec] at ran

/-- A step of a task is a step of the ledger, when no worker begins and an item about to be
appended is not in the list. -/
theorem exec_ledger {m m' : QueueMemory Item} {l : Ledger Item} (models : Models () m l)
    {task task' : Task Item} {choice : Choice Item}
    (unstarted : (m.queues ()).workersUnstarted = 0)
    (fresh : ∀ w, task.hand = .appending w → w ∉ l.nodes)
    (ran : exec m task choice = some (m', task')) :
    ∃ l', Models () m' l' ∧ Ledger.Step l task.hand l' task'.hand := by
  obtain moved | ⟨waiting, -⟩ := exec_ledger_or_begins models fresh ran
  · exact moved
  · omega

/-- Only the worker goes through the worker loop. -/
theorem exec_worker {m m' : QueueMemory Item} {task : Task Item} {choice : Choice Item}
    {pc : WorkerPc Item} (unstarted : (m.queues ()).workersUnstarted = 0)
    (ran : exec m task choice = some (m', .worker pc)) :
    ∃ pc', task = .worker pc' ∧ workqueueWorker () m pc' = (m', pc) := by
  cases task with
  | idle => cases choice <;> simp [exec, unstarted] at ran
  | queueing w pc' =>
    cases choice with
    | go env =>
      rcases went : queueWork () w env m pc' with ⟨m'', pc'' | accepted⟩ <;>
        simp [exec, went] at ran
    | queue _ | cancel _ | begin => simp [exec] at ran
  | cancelling w pc' =>
    cases choice with
    | go env =>
      obtain ⟨⟨m'', next⟩, -, same⟩ := Option.map_eq_some_iff.mp ran
      cases next <;> simp at same
    | queue _ | cancel _ | begin => simp [exec] at ran
  | worker pc' =>
    cases choice with
    | go env =>
      obtain ⟨rfl, rfl⟩ : _ = m' ∧ _ = pc := by simpa [exec] using ran
      exact ⟨pc', rfl, rfl⟩
    | queue _ | cancel _ | begin => simp [exec] at ran

/-- The crew is settled, and the ledger describes the queue and keeps its invariant. -/
structure Service (p : Tasks Id Item) (l : Ledger Item) : Prop where
  /-- One worker, and no creation under way. -/
  crew : Crew.Settled (p.shared.queues ()).crew fun t => (p.threads t).role
  /-- The ledger is that of the queue. -/
  models : Models () p.shared l
  /-- The ledger is in order. -/
  ledger : l.Inv fun t => (p.threads t).hand

omit [DecidableEq Item] [Fintype Item] in
/-- A served queue has an empty ledger. -/
theorem Served.service {p : Tasks Id Item} (served : Served p) :
    Service p ⟨[], fun _ => ⟨false, false⟩, fun _ => false⟩ := by
  obtain ⟨worker, working, others⟩ := served.worker
  have known : ∀ t, p.threads t = .idle ∨ t = worker ∧ p.threads t = .worker .pop := by
    intro t
    by_cases here : t = worker
    · exact .inr ⟨here, here ▸ working⟩
    · exact .inl (others t here)
  have crew : Crew.Settled (p.shared.queues ()).crew fun t => (p.threads t).role := by
    refine ⟨?_, ?_, fun t => ?_⟩
    · simp [served.queue, WorkqueueStruct.crew]
    · simp [served.queue, WorkqueueStruct.crew, WorkqueueStruct.alloc]
    · rcases known t with idle | ⟨-, working⟩ <;> simp [*]
  have models : Models () p.shared ⟨[], fun _ => ⟨false, false⟩, fun _ => false⟩ := by
    refine ⟨?_, fun w => ?_, fun w => ?_⟩
    · rw [Memory.list, served.queue]
      exact LinkedQueue.repr_empty p.shared.next
    · rw [served.items w]
      rfl
    · rw [served.items w]
      simp [WorkStruct.init]
  have free : ∀ t, (p.threads t).hand = .free ∨ t = worker ∧ (p.threads t).hand = .serving := by
    intro t
    rcases known t with idle | ⟨here, working⟩ <;> simp [*]
  refine ⟨crew, models, ?_⟩
  constructor <;> grind -ring -linarith [Hand.Holds, Hand.works]

variable [DecidableEq Id]

/-- Every step of every task is a step of the ledger. -/
theorem Service.step {p q : Tasks Id Item} {l : Ledger Item} {a : Id × Choice Item}
    (service : Service p l) (stepped : Pool.step exec p a = some q) :
    ∃ l', Service q l' ∧ Ledger.Step l (p.threads a.1).hand l' (q.threads a.1).hand := by
  obtain ⟨shared, next, ran, rfl⟩ := Pool.step_eq_some.mp stepped
  obtain ⟨crew, models, ledger⟩ := service
  have fresh : ∀ w, (p.threads a.1).hand = .appending w → w ∉ l.nodes := fun w appending =>
    (ledger.held a.1 w (by rw [appending]; rfl)).2
  obtain ⟨l', models', moved⟩ := exec_ledger models crew.unstarted fresh ran
  obtain ⟨sameCrew, sameRole⟩ := crew.step (exec_crew ran)
  have roles : (fun t => (Function.update p.threads a.1 next t).role) =
      fun t => (p.threads t).role := by
    funext t
    by_cases here : t = a.1
    · subst here
      simpa using sameRole
    · simp [Function.update_of_ne here]
  have hands : (fun t => (Function.update p.threads a.1 next t).hand) =
      Function.update (fun t => (p.threads t).hand) a.1 next.hand :=
    funext fun t => Function.apply_update (fun _ => Task.hand) p.threads a.1 next t
  refine ⟨l', ⟨?_, models', ?_⟩, by simpa using moved⟩
  · simpa only [sameCrew, roles] using crew
  · simpa only [hands] using ledger.step moved

/-- Every reachable state of a served queue has a ledger. -/
theorem Service.of_reach {ok : Tasks Id Item → Id × Choice Item → Prop} {p : Tasks Id Item}
    (reach : (tasks Served).Reach ok p) : ∃ l, Service p l :=
  reach.invariant (fun p => ∃ l, Service p l) (fun _ served => ⟨_, served.service⟩)
    fun _ _ _ ⟨_, service⟩ _ stepped => by
      obtain ⟨l', after, -⟩ := service.step stepped
      exact ⟨l', after⟩

end Lcompat.Workqueue

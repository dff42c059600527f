import Lcompat.Workqueue.Tasks

/-!
# Creation of the worker task

`lcompat_workqueue_ensure_worker` guards the creation of the worker by `worker_starting` and
publishes the worker in `worker_task`. A caller that found no worker and then takes the guard
does not look at `worker_task` again, so a worker that another caller created in between is
created a second time. The results are about the runs in which no caller takes the guard once
a worker has been published: there the queue has at most one worker.

The creation is followed through an abstract protocol, four fields of the queue and one role
for each task, that every step of the model refines.
-/

namespace Lcompat.Workqueue

open Lcompat.Logic

/-- The fields of a queue that the creation of workers goes through. -/
structure Crew where
  /-- Whether `worker_task` is set. -/
  task : Bool
  /-- `worker_starting`. -/
  starting : Bool
  /-- Worker tasks created. -/
  created : Nat
  /-- Created worker tasks that have not begun. -/
  unstarted : Nat

/-- The part of a task in the creation of workers. -/
inductive Role where
  /-- None. -/
  | outside
  /-- Found no worker and is about to take the guard. -/
  | claiming
  /-- Owns the guard and is about to create the worker. -/
  | creating
  /-- Has created the worker and is about to publish it. -/
  | storing
  /-- Is about to give the guard back. -/
  | leaving
  /-- Is a worker. -/
  | worker
  deriving DecidableEq

/-- Roles between taking the guard and giving it back. -/
def Role.guarded : Role → Bool
  | .creating | .storing | .leaving => true
  | _ => false

/-- The protocol by which workers are created. -/
inductive Crew.Step : Crew → Role → Crew → Role → Prop
  /-- A step that has nothing to do with the creation. -/
  | keep (c : Crew) (r : Role) : Step c r c r
  /-- A caller finds no worker. -/
  | look (c : Crew) (none : c.task = false) : Step c .outside c .claiming
  /-- The guard was taken by another caller. -/
  | wait (c : Crew) : Step c .claiming c .outside
  /-- The guard is taken. -/
  | claim (c : Crew) (free : c.starting = false) :
      Step c .claiming { c with starting := true } .creating
  /-- A worker is created. -/
  | create (c : Crew) :
      Step c .creating { c with created := c.created + 1, unstarted := c.unstarted + 1 } .storing
  /-- No worker could be created. -/
  | fail (c : Crew) : Step c .creating c .leaving
  /-- The worker is published. -/
  | publish (c : Crew) : Step c .storing { c with task := true } .leaving
  /-- The guard is given back. -/
  | leave (c : Crew) : Step c .leaving { c with starting := false } .outside
  /-- A created worker begins. -/
  | begin (c : Crew) (waiting : 0 < c.unstarted) :
      Step c .outside { c with unstarted := c.unstarted - 1 } .worker

/-- The creation fields of a queue. -/
def WorkqueueStruct.crew {Item : Type} (wq : WorkqueueStruct Item) : Crew :=
  ⟨wq.workerTask, wq.workerStarting, wq.workersCreated, wq.workersUnstarted⟩

/-- The role of a caller of `lcompat_workqueue_ensure_worker`. -/
@[simp]
def EnsurePc.role : EnsurePc → Role
  | .casStarting => .claiming
  | .create => .creating
  | .storeTask => .storing
  | .clearStarting | .clearFailed => .leaving
  | .loadTask | .spinStarting | .spinTask | .result => .outside

/-- The role of a task. -/
@[simp]
def Task.role {Item : Type} : Task Item → Role
  | .queueing _ (.ensure pc) => pc.role
  | .worker _ => .worker
  | .queueing .. | .cancelling .. | .idle => .outside

/-- `lcompat_workqueue_ensure_worker` follows the protocol. -/
theorem workqueueEnsureWorker_crew {Item : Type} (env : Env) (m : QueueMemory Item)
    (pc : EnsurePc) :
    Crew.Step (m.queues ()).crew pc.role ((workqueueEnsureWorker () env m pc).1.queues ()).crew
      ((workqueueEnsureWorker () env m pc).2.after EnsurePc.role .outside) := by
  cases pc with
  | loadTask =>
    cases found : (m.queues ()).workerTask with
    | true => simpa [workqueueEnsureWorker, found] using Crew.Step.keep _ _
    | false => simpa [workqueueEnsureWorker, found] using Crew.Step.look _ found
  | casStarting =>
    cases taken : (m.queues ()).workerStarting with
    | true => simpa [workqueueEnsureWorker, taken] using Crew.Step.wait _
    | false =>
      have claimed := Crew.Step.claim (m.queues ()).crew taken
      simpa [workqueueEnsureWorker, taken, WorkqueueStruct.crew] using claimed
  | create =>
    cases created : env.created with
    | true =>
      have grown := Crew.Step.create (m.queues ()).crew
      simpa [workqueueEnsureWorker, created, WorkqueueStruct.crew] using grown
    | false => simpa [workqueueEnsureWorker, created] using Crew.Step.fail _
  | storeTask =>
    have published := Crew.Step.publish (m.queues ()).crew
    simpa [workqueueEnsureWorker, WorkqueueStruct.crew] using published
  | clearStarting | clearFailed =>
    have left := Crew.Step.leave (m.queues ()).crew
    simpa [workqueueEnsureWorker, WorkqueueStruct.crew] using left
  | spinStarting =>
    cases taken : (m.queues ()).workerStarting <;>
      simpa [workqueueEnsureWorker, taken] using Crew.Step.keep _ _
  | spinTask =>
    cases found : (m.queues ()).workerTask <;>
      simpa [workqueueEnsureWorker, found] using Crew.Step.keep _ _
  | result => simpa [workqueueEnsureWorker] using Crew.Step.keep _ _

variable {Item : Type} [DecidableEq Item]

/-- Queueing touches the crew inside `lcompat_workqueue_ensure_worker` only. -/
theorem queueWork_crew (w : Item) (env : Env) (m : QueueMemory Item) (pc : QueuePc) :
    Crew.Step (m.queues ()).crew (Task.queueing w pc).role
      ((queueWork () w env m pc).1.queues ()).crew
      ((queueWork () w env m pc).2.after (fun pc => (Task.queueing w pc).role) .outside) := by
  cases pc with
  | ensure pc =>
    have ensured := workqueueEnsureWorker_crew env m pc
    rcases went : workqueueEnsureWorker () env m pc with ⟨m', pc' | ready⟩
    · simpa [queueWork, went] using ensured
    · cases ready <;> simpa [queueWork, went] using ensured
  | load =>
    cases queued : (m.works w).state.queued <;>
      simpa [queueWork, queued] using Crew.Step.keep _ _
  | cas running =>
    by_cases same : (m.works w).state = ⟨false, running⟩ <;>
      simpa [queueWork, same] using Crew.Step.keep _ _
  | append => simpa [queueWork, WorkqueueStruct.crew] using Crew.Step.keep _ _
  | wake pc =>
    cases pc with
    | loadTask =>
      cases found : (m.queues ()).workerTask <;>
        simpa [queueWork, workqueueWake, found] using Crew.Step.keep _ _
    | loadWaiting =>
      cases waiting : (m.queues ()).workerWaiting <;>
        simpa [queueWork, workqueueWake, waiting] using Crew.Step.keep _ _
    | unblock =>
      simpa [queueWork, workqueueWake, WorkqueueStruct.crew] using Crew.Step.keep _ _

/-- The worker loop leaves the crew alone. -/
theorem workqueueWorker_crew (m : QueueMemory Item) (pc : WorkerPc Item) :
    ((workqueueWorker () m pc).1.queues ()).crew = (m.queues ()).crew := by
  cases pc with
  | pop =>
    rcases popped : (m.list ()).pop with ⟨l, _ | w⟩ <;>
      simp [workqueueWorker, workqueuePopLocked, popped, WorkqueueStruct.crew]
  | block =>
    cases pending : (m.queues ()).unblocked <;>
      simp [workqueueWorker, pending, WorkqueueStruct.crew]
  | load w => simp [workqueueWorker]
  | cas w running =>
    by_cases same : (m.works w).state = ⟨true, running⟩ <;> simp [workqueueWorker, same]
  | setRunning w | call w | inFunc w | clearRunning w | clearState w => simp [workqueueWorker]
  | close w => simp [workqueueWorker, workqueueClose, WorkqueueStruct.crew]

variable [Fintype Item]

/-- Cancelling leaves the crew alone. -/
theorem cancelWorkSync_crew {w : Item} {m m' : QueueMemory Item} {pc : CancelPc Unit}
    {next : Next (CancelPc Unit) Bool} (ran : cancelWorkSync w m pc = some (m', next)) :
    (m'.queues ()).crew = (m.queues ()).crew := by
  cases pc with
  | loadWq | spin canceled =>
    obtain ⟨rfl, -⟩ : m = m' ∧ _ := by simpa [cancelWorkSync] using ran
    rfl
  | clearQueued =>
    obtain ⟨rfl, -⟩ : m.setWork w _ = m' ∧ _ := by simpa [cancelWorkSync] using ran
    rfl
  | remove q =>
    obtain ⟨⟨m'', found⟩, removed, same⟩ := Option.map_eq_some_iff.mp ran
    obtain ⟨⟨l, unlinked⟩, -, stored⟩ := Option.map_eq_some_iff.mp removed
    cases unlinked with
    | true =>
      obtain ⟨rfl, rfl⟩ := Prod.mk.inj stored
      obtain ⟨rfl, -⟩ := Prod.mk.inj same
      simp [WorkqueueStruct.crew]
    | false =>
      obtain ⟨rfl, rfl⟩ := Prod.mk.inj stored
      obtain ⟨rfl, -⟩ := Prod.mk.inj same
      rfl

/-- Every step of a task follows the protocol. -/
theorem exec_crew {m m' : QueueMemory Item} {task task' : Task Item} {choice : Choice Item}
    (ran : exec m task choice = some (m', task')) :
    Crew.Step (m.queues ()).crew task.role (m'.queues ()).crew task'.role := by
  cases task with
  | idle =>
    cases choice with
    | queue w =>
      obtain ⟨rfl, rfl⟩ : m = m' ∧ _ = task' := by simpa [exec] using ran
      exact .keep _ _
    | cancel w =>
      obtain ⟨rfl, rfl⟩ : m = m' ∧ _ = task' := by simpa [exec] using ran
      exact .keep _ _
    | begin =>
      obtain ⟨waiting, rfl, rfl⟩ : 0 < (m.queues ()).workersUnstarted ∧ _ = m' ∧ _ = task' := by
        simpa [exec] using ran
      simpa [WorkqueueStruct.crew] using Crew.Step.begin (m.queues ()).crew waiting
    | go env => simp [exec] at ran
  | queueing w pc =>
    cases choice with
    | go env =>
      have queued := queueWork_crew w env m pc
      rcases went : queueWork () w env m pc with ⟨m'', pc' | accepted⟩ <;>
        simp only [exec, went, Option.some.injEq, Prod.mk.injEq] at ran <;>
        obtain ⟨rfl, rfl⟩ := ran <;>
        simpa [went] using queued
    | queue _ | cancel _ | begin => simp [exec] at ran
  | cancelling w pc =>
    cases choice with
    | go env =>
      obtain ⟨⟨m'', next⟩, went, same⟩ := Option.map_eq_some_iff.mp ran
      have kept := cancelWorkSync_crew went
      cases next <;>
        simp only [Prod.mk.injEq] at same <;>
        obtain ⟨rfl, rfl⟩ := same <;>
        simpa [kept] using Crew.Step.keep (m.queues ()).crew _
    | queue _ | cancel _ | begin => simp [exec] at ran
  | worker pc =>
    cases choice with
    | go env =>
      obtain ⟨rfl, rfl⟩ : _ = m' ∧ _ = task' := by simpa [exec] using ran
      simpa [workqueueWorker_crew] using Crew.Step.keep (m.queues ()).crew _
    | queue _ | cancel _ | begin => simp [exec] at ran

section Protocol

variable {Id : Type} [DecidableEq Id]

/-- The guard has one owner, who creates the first worker, and that worker is the only one. -/
structure Crew.Inv (c : Crew) (roles : Id → Role) : Prop where
  /-- The guard is marked while it is owned. -/
  marked : ∀ t, (roles t).guarded = true → c.starting = true
  /-- The guard has at most one owner. -/
  one_owner : ∀ t u, t ≠ u → ¬((roles t).guarded = true ∧ (roles u).guarded = true)
  /-- Whoever creates a worker creates the first. -/
  first : ∀ t, roles t = .creating → c.created = 0
  /-- No worker was created as long as none is published or about to be. -/
  unpublished : c.task = false → (∀ t, roles t ≠ .storing) → c.created = 0
  /-- There is at most one worker. -/
  created_le : c.created ≤ 1
  /-- Only created workers wait to begin. -/
  unstarted_le : c.unstarted ≤ c.created
  /-- A worker that has begun was created and is not waiting. -/
  begun : ∀ t, roles t = .worker → c.created = 1 ∧ c.unstarted = 0
  /-- At most one worker has begun. -/
  one_worker : ∀ t u, t ≠ u → ¬(roles t = .worker ∧ roles u = .worker)

/-- The protocol keeps its invariant when the guard is not taken past a published worker. -/
theorem Crew.Inv.step {c c' : Crew} {roles : Id → Role} {t : Id} {role : Role}
    (inv : Crew.Inv c roles) (stepped : Crew.Step c (roles t) c' role)
    (early : roles t = .claiming → c.starting = false → c.task = false) :
    Crew.Inv c' (Function.update roles t role) := by
  obtain ⟨marked, one_owner, first, unpublished, created_le, unstarted_le, begun, one_worker⟩ := inv
  have back : roles t ≠ .storing → c.task = false →
      (∀ u, Function.update roles t role u ≠ .storing) → c.created = 0 := by
    intro here task none
    refine unpublished task fun u => ?_
    by_cases same : u = t
    · exact same ▸ here
    · simpa [Function.update_of_ne same] using none u
  generalize here : roles t = before at stepped early
  cases stepped with
  | keep =>
    rw [← here, Function.update_eq_self]
    exact ⟨marked, one_owner, first, unpublished, created_le, unstarted_le, begun, one_worker⟩
  | look | wait | fail =>
    have still := back (by simp [here])
    constructor <;> grind -ring -linarith [Role.guarded]
  | claim free =>
    have none_yet := early rfl free
    have still := back (by simp [here])
    constructor <;> grind -ring -linarith [Role.guarded]
  | create =>
    have stored : Function.update roles t Role.storing t = .storing := Function.update_self ..
    constructor <;> grind -ring -linarith [Role.guarded]
  | publish | leave => constructor <;> grind -ring -linarith [Role.guarded]
  | begin waiting =>
    have still := back (by simp [here])
    constructor <;> grind -ring -linarith [Role.guarded]

end Protocol

variable {Id : Type}

/-- What the guard is for: one worker is created, so no two tasks execute work functions of
the queue. -/
structure OneWorker (p : Tasks Id Item) : Prop where
  /-- At most one worker task is created. -/
  created_once : (p.shared.queues ()).workersCreated ≤ 1
  /-- No two tasks are inside work functions. -/
  one_executor : ∀ t u v w, t ≠ u →
    ¬(p.threads t = .worker (.inFunc v) ∧ p.threads u = .worker (.inFunc w))

/-- A caller that takes the guard of `lcompat_workqueue_ensure_worker` does so while no worker
has been published since it looked. -/
def GuardTakenEarly (p : Tasks Id Item) (a : Id × Choice Item) : Prop :=
  (p.threads a.1).role = .claiming → (p.shared.queues ()).workerStarting = false →
    (p.shared.queues ()).workerTask = false

instance (p : Tasks Id Item) (a : Id × Choice Item) : Decidable (GuardTakenEarly p a) :=
  inferInstanceAs (Decidable (_ → _ → _))

/-- The invariant of the protocol at the roles of the tasks. -/
def CrewInv (p : Tasks Id Item) : Prop :=
  Crew.Inv (p.shared.queues ()).crew fun t => (p.threads t).role

omit [DecidableEq Item] [Fintype Item] in
/-- A new queue has no worker and an unowned guard. -/
theorem Fresh.crewInv {p : Tasks Id Item} (fresh : Fresh p) : CrewInv p := by
  constructor <;>
    simp [fresh.queue, fresh.idle, WorkqueueStruct.crew, WorkqueueStruct.alloc, Role.guarded]

variable [DecidableEq Id]

/-- Every step of a task keeps the invariant of the protocol when the guard is taken early. -/
theorem CrewInv.step {p q : Tasks Id Item} {a : Id × Choice Item} (inv : CrewInv p)
    (early : GuardTakenEarly p a) (stepped : Pool.step exec p a = some q) : CrewInv q := by
  obtain ⟨shared, next, ran, rfl⟩ := Pool.step_eq_some.mp stepped
  have moved := Crew.Inv.step inv (exec_crew ran) early
  have roles : (fun t => (Function.update p.threads a.1 next t).role) =
      Function.update (fun t => (p.threads t).role) a.1 next.role :=
    funext fun t => Function.apply_update (fun _ => Task.role) p.threads a.1 next t
  simpa only [CrewInv, roles] using moved

/-- In every run in which the guard is only taken early at most one worker is created and no
two tasks execute work functions. -/
theorem ensure_worker_once {p : Tasks Id Item} (reach : (tasks Fresh).Reach GuardTakenEarly p) :
    OneWorker p := by
  have inv : CrewInv p := reach.invariant CrewInv (fun _ fresh => fresh.crewInv)
    fun _ _ _ inv early stepped => inv.step early stepped
  refine ⟨inv.created_le, fun t u v w apart both => ?_⟩
  exact inv.one_worker t u apart ⟨by simp [both.1], by simp [both.2]⟩

/-- Two tasks, one item and a new queue. -/
def newQueue : Tasks (Fin 2) Unit :=
  ⟨⟨fun _ => .alloc, fun _ => .init false, fun _ => none⟩, fun _ => .idle⟩

/-- A new queue is fresh. -/
theorem newQueue_fresh : Fresh newQueue := ⟨rfl, fun _ => rfl, fun _ => rfl⟩

/-- What the kernel answers when it creates a task. -/
def Env.ready : Env := ⟨true, 0⟩

/-- One call queues the item, creating the worker; the other task begins as that worker and
enters the work function. -/
theorem newQueue_one_worker : ∃ p : Tasks (Fin 2) Unit, (tasks Fresh).Reachable p ∧
    p.threads 1 = .worker (.inFunc ()) ∧ OneWorker p := by
  have ran : ∃ p, (tasks Fresh).runWith GuardTakenEarly newQueue
      ([(0, .queue ())] ++ List.replicate 8 (0, .go .ready) ++ [(1, .begin)] ++
        List.replicate 5 (1, .go .ready)) = some p ∧ p.threads 1 = .worker (.inFunc ()) :=
    ⟨_, rfl, rfl⟩
  obtain ⟨p, executed, inside⟩ := ran
  have reach : (tasks Fresh).Reach GuardTakenEarly p :=
    ⟨newQueue, newQueue_fresh, System.path_of_runWith executed⟩
  exact ⟨p, reach.mono fun _ _ _ => trivial, inside, ensure_worker_once reach⟩

/-- The first caller finds no worker, the second creates one, and then the first takes the
guard and creates another. -/
theorem newQueue_two_workers :
    ¬∀ p : Tasks (Fin 2) Unit, (tasks Fresh).Reachable p → OneWorker p := by
  intro always
  have ran : ∃ p, (tasks Fresh).run newQueue
      [(0, .queue ()), (0, .go .ready), (1, .queue ()), (1, .go .ready), (1, .go .ready),
        (1, .go .ready), (1, .go .ready), (1, .go .ready), (0, .go .ready), (0, .go .ready)] =
        some p ∧ (p.shared.queues ()).workersCreated = 2 := ⟨_, rfl, rfl⟩
  obtain ⟨p, executed, twice⟩ := ran
  have once := (always p (System.reachable_of_run newQueue_fresh executed)).created_once
  omega

end Lcompat.Workqueue

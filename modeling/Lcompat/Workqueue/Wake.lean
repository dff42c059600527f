import Lcompat.Workqueue.Staff

/-!
# No queued work is stranded

The worker says that it waits inside the locked section in which it finds the list empty, and
blocks outside it; a caller of `lcompat_queue_work` appends inside a locked section and looks for a
waiting worker outside it. A wake-up that comes before the worker has blocked is remembered by the
native task, as `unblocked`. The races between the two are followed through an abstract protocol,
like the creation of the worker: whether the list is empty, whether the worker waits and is about
to be woken, and one part for each task.
-/

namespace Lcompat.Workqueue

open Lcompat.Logic

/-- What the worker and its callers tell each other. -/
structure Bell where
  /-- Whether `worker_task` is set. -/
  task : Bool
  /-- `worker_waiting`. -/
  waiting : Bool
  /-- Whether a wake-up of the worker is pending. -/
  unblocked : Bool
  /-- Whether the list is empty. -/
  empty : Bool

/-- The part of a task in waking the worker. -/
inductive Part where
  /-- None. -/
  | outside
  /-- Has found the worker published and is about to append. -/
  | ready
  /-- Stands between its append and the end of its wake. -/
  | ringing
  /-- The worker outside `task_block`. -/
  | awake
  /-- The worker about to block, or blocked. -/
  | blocked
  deriving DecidableEq

/-- The protocol by which the worker is woken. -/
inductive Bell.Step : Bell → Part → Bell → Part → Prop
  /-- A step that has nothing to do with the wake. -/
  | keep (b : Bell) (p : Part) : Step b p b p
  /-- The worker is published. -/
  | publish (b : Bell) : Step b .outside { b with task := true } .ready
  /-- A caller has found the worker published. -/
  | prepare (b : Bell) (published : b.task = true) : Step b .outside b .ready
  /-- The item is queued already. -/
  | refuse (b : Bell) : Step b .ready b .outside
  /-- An item is appended. -/
  | append (b : Bell) : Step b .ready { b with empty := false } .ringing
  /-- The caller finds no worker, or none that waits. -/
  | leave (b : Bell) (deaf : b.task = false ∨ b.waiting = false) : Step b .ringing b .outside
  /-- The worker is woken. -/
  | ring (b : Bell) : Step b .ringing { b with unblocked := true } .outside
  /-- The worker takes an item. -/
  | pop (b : Bell) (empty : Bool) : Step b .awake { b with waiting := false, empty } .awake
  /-- The worker finds the list empty. -/
  | block (b : Bell) (empty : b.empty = true) :
      Step b .awake { b with waiting := true } .blocked
  /-- The worker returns from `task_block`. -/
  | wake (b : Bell) : Step b .blocked { b with unblocked := false } .awake
  /-- A cancel takes an item out of the list. -/
  | remove (b : Bell) (empty : Bool) (some_ : b.empty = false) :
      Step b .outside { b with empty } .outside
  /-- A worker begins. -/
  | begin (b : Bell) : Step b .outside b .awake

/-- What a queue and its worker tell each other. -/
def WorkqueueStruct.bell {Item : Type} (wq : WorkqueueStruct Item) : Bell :=
  ⟨wq.workerTask, wq.workerWaiting, wq.unblocked, wq.head.isNone⟩

/-- The part of a caller of `lcompat_workqueue_ensure_worker`. -/
@[simp]
def EnsurePc.part : EnsurePc → Part
  | .clearStarting => .ready
  | .loadTask | .casStarting | .create | .storeTask | .clearFailed | .spinStarting | .spinTask
  | .result => .outside

/-- The part of a caller of `lcompat_queue_work`. -/
@[simp]
def QueuePc.part : QueuePc → Part
  | .ensure pc => pc.part
  | .load | .cas _ | .append => .ready
  | .wake _ => .ringing

/-- The part of the worker. -/
@[simp]
def WorkerPc.part {Item : Type} : WorkerPc Item → Part
  | .block => .blocked
  | .pop | .load _ | .cas _ _ | .setRunning _ | .call _ | .inFunc _ | .clearRunning _
  | .clearState _ | .close _ => .awake

/-- The part of a task. -/
@[simp]
def Task.part {Item : Type} : Task Item → Part
  | .queueing _ pc => pc.part
  | .worker pc => pc.part
  | .cancelling .. | .idle => .outside

/-- What a caller finds when `lcompat_workqueue_ensure_worker` returns: it is ready only when it
returns true. -/
def ensured : Next EnsurePc Bool → Part
  | .goto pc => pc.part
  | .ret ready => if ready then .ready else .outside

/-- `lcompat_workqueue_ensure_worker` returns true when the worker is published. -/
theorem workqueueEnsureWorker_bell {Item : Type} (env : Env) (m : QueueMemory Item)
    (pc : EnsurePc) :
    Bell.Step (m.queues ()).bell pc.part ((workqueueEnsureWorker () env m pc).1.queues ()).bell
      (ensured (workqueueEnsureWorker () env m pc).2) := by
  cases pc with
  | loadTask =>
    cases found : (m.queues ()).workerTask with
    | true => simpa [workqueueEnsureWorker, found, ensured] using Bell.Step.prepare _ found
    | false => simpa [workqueueEnsureWorker, found, ensured] using Bell.Step.keep _ _
  | casStarting =>
    have kept := Bell.Step.keep (m.queues ()).bell .outside
    cases taken : (m.queues ()).workerStarting <;>
      simpa [workqueueEnsureWorker, taken, ensured, WorkqueueStruct.bell] using kept
  | create =>
    have kept := Bell.Step.keep (m.queues ()).bell .outside
    cases created : env.created <;>
      simpa [workqueueEnsureWorker, created, ensured, WorkqueueStruct.bell] using kept
  | storeTask =>
    have published := Bell.Step.publish (m.queues ()).bell
    simpa [workqueueEnsureWorker, ensured, WorkqueueStruct.bell] using published
  | clearStarting =>
    have kept := Bell.Step.keep (m.queues ()).bell .ready
    simpa [workqueueEnsureWorker, ensured, WorkqueueStruct.bell] using kept
  | clearFailed =>
    have kept := Bell.Step.keep (m.queues ()).bell .outside
    simpa [workqueueEnsureWorker, ensured, WorkqueueStruct.bell] using kept
  | spinStarting =>
    cases taken : (m.queues ()).workerStarting <;>
      simpa [workqueueEnsureWorker, taken, ensured] using Bell.Step.keep _ _
  | spinTask =>
    cases found : (m.queues ()).workerTask <;>
      simpa [workqueueEnsureWorker, found, ensured] using Bell.Step.keep _ _
  | result =>
    cases found : (m.queues ()).workerTask with
    | true => simpa [workqueueEnsureWorker, found, ensured] using Bell.Step.prepare _ found
    | false => simpa [workqueueEnsureWorker, found, ensured] using Bell.Step.keep _ _

variable {Item : Type} [DecidableEq Item]

/-- Queueing rings for the worker when it has appended. -/
theorem queueWork_bell {m : QueueMemory Item} {nodes : List Item} (repr : (m.list ()).Repr nodes)
    (w : Item) (env : Env) (pc : QueuePc) :
    Bell.Step (m.queues ()).bell pc.part ((queueWork () w env m pc).1.queues ()).bell
      ((queueWork () w env m pc).2.after QueuePc.part .outside) := by
  cases pc with
  | ensure pc =>
    have found := workqueueEnsureWorker_bell env m pc
    rcases went : workqueueEnsureWorker () env m pc with ⟨m', pc' | ready⟩
    · simpa [queueWork, went, ensured] using found
    · cases ready <;> simpa [queueWork, went, ensured] using found
  | load =>
    cases queued : (m.works w).state.queued with
    | true => simpa [queueWork, queued] using Bell.Step.refuse _
    | false => simpa [queueWork, queued] using Bell.Step.keep _ _
  | cas running =>
    by_cases same : (m.works w).state = ⟨false, running⟩ <;>
      simpa [queueWork, same] using Bell.Step.keep _ _
  | append =>
    have appended := Bell.Step.append (m.queues ()).bell
    have some_ : ((m.list ()).append w).head.isNone = false := by
      rw [Option.isNone_eq_false_iff, ← Option.ne_none_iff_isSome]
      exact repr.append_head w
    simpa [queueWork, WorkqueueStruct.bell, some_] using appended
  | wake pc =>
    cases pc with
    | loadTask =>
      cases found : (m.queues ()).workerTask with
      | true => simpa [queueWork, workqueueWake, found] using Bell.Step.keep _ _
      | false => simpa [queueWork, workqueueWake, found] using Bell.Step.leave _ (.inl found)
    | loadWaiting =>
      cases waiting : (m.queues ()).workerWaiting with
      | true => simpa [queueWork, workqueueWake, waiting] using Bell.Step.keep _ _
      | false => simpa [queueWork, workqueueWake, waiting] using Bell.Step.leave _ (.inr waiting)
    | unblock =>
      have rung := Bell.Step.ring (m.queues ()).bell
      simpa [queueWork, workqueueWake, WorkqueueStruct.bell] using rung

/-- The worker blocks only when it has found the list empty. -/
theorem workqueueWorker_bell (m : QueueMemory Item) (pc : WorkerPc Item) :
    Bell.Step (m.queues ()).bell pc.part ((workqueueWorker () m pc).1.queues ()).bell
      (workqueueWorker () m pc).2.part := by
  cases pc with
  | pop =>
    cases first : (m.queues ()).head with
    | none =>
      have blocked := Bell.Step.block (m.queues ()).bell (by simp [WorkqueueStruct.bell, first])
      simpa [workqueueWorker, workqueuePopLocked, LinkedQueue.pop, Memory.list, first,
        WorkqueueStruct.bell] using blocked
    | some w =>
      have popped := Bell.Step.pop (m.queues ()).bell (m.next w).isNone
      simpa [workqueueWorker, workqueuePopLocked, LinkedQueue.pop, Memory.list, first,
        WorkqueueStruct.bell] using popped
  | block =>
    cases pending : (m.queues ()).unblocked with
    | true =>
      have woken := Bell.Step.wake (m.queues ()).bell
      simpa [workqueueWorker, pending, WorkqueueStruct.bell] using woken
    | false => simpa [workqueueWorker, pending] using Bell.Step.keep _ _
  | load w =>
    cases queued : (m.works w).state.queued <;>
      simpa [workqueueWorker, queued] using Bell.Step.keep _ _
  | cas w running =>
    by_cases same : (m.works w).state = ⟨true, running⟩ <;>
      simpa [workqueueWorker, same] using Bell.Step.keep _ _
  | setRunning w | call w | inFunc w | clearRunning w | clearState w =>
    simpa [workqueueWorker] using Bell.Step.keep _ _
  | close w =>
    simpa [workqueueWorker, workqueueClose, WorkqueueStruct.bell] using Bell.Step.keep _ _

variable [Fintype Item]

/-- Cancelling takes items out of the list only. -/
theorem cancelWorkSync_bell {w : Item} {m m' : QueueMemory Item} {pc : CancelPc Unit}
    {next : Next (CancelPc Unit) Bool} (ran : cancelWorkSync w m pc = some (m', next)) :
    Bell.Step (m.queues ()).bell .outside (m'.queues ()).bell .outside := by
  cases pc with
  | loadWq | spin canceled =>
    obtain ⟨rfl, -⟩ : m = m' ∧ _ := by simpa [cancelWorkSync] using ran
    exact .keep _ _
  | clearQueued =>
    obtain ⟨rfl, -⟩ : m.setWork w _ = m' ∧ _ := by simpa [cancelWorkSync] using ran
    exact .keep _ _
  | remove q =>
    obtain ⟨⟨m'', found⟩, removed, same⟩ := Option.map_eq_some_iff.mp ran
    obtain ⟨⟨l, unlinked⟩, walked, stored⟩ := Option.map_eq_some_iff.mp removed
    cases unlinked with
    | true =>
      obtain ⟨rfl, rfl⟩ := Prod.mk.inj stored
      obtain ⟨rfl, -⟩ := Prod.mk.inj same
      have some_ : (m.queues ()).bell.empty = false := by
        cases first : (m.queues ()).head with
        | none => simp [LinkedQueue.removeFrom, Memory.list, first] at walked
        | some v => simp [WorkqueueStruct.bell, first]
      have shortened := Bell.Step.remove _ l.head.isNone some_
      simpa [WorkqueueStruct.bell] using shortened
    | false =>
      obtain ⟨rfl, rfl⟩ := Prod.mk.inj stored
      obtain ⟨rfl, -⟩ := Prod.mk.inj same
      exact .keep _ _

/-- Every step of a task follows the protocol. -/
theorem exec_bell {m m' : QueueMemory Item} {nodes : List Item} (repr : (m.list ()).Repr nodes)
    {task task' : Task Item} {choice : Choice Item} (ran : exec m task choice = some (m', task')) :
    Bell.Step (m.queues ()).bell task.part (m'.queues ()).bell task'.part := by
  cases task with
  | idle =>
    cases choice with
    | queue w =>
      obtain ⟨rfl, rfl⟩ : m = m' ∧ _ = task' := by simpa [exec] using ran
      exact .keep _ _
    | cancel w =>
      obtain ⟨rfl, rfl⟩ : m = m' ∧ _ = task' := by simpa [exec] using ran
      exact .keep _ _
    | begin =>
      obtain ⟨-, rfl, rfl⟩ : _ ∧ _ = m' ∧ _ = task' := by simpa [exec] using ran
      simpa [WorkqueueStruct.bell] using Bell.Step.begin (m.queues ()).bell
    | go env => simp [exec] at ran
  | queueing w pc =>
    cases choice with
    | go env =>
      have queued := queueWork_bell repr w env pc
      rcases went : queueWork () w env m pc with ⟨m'', pc' | accepted⟩ <;>
        simp only [exec, went, Option.some.injEq, Prod.mk.injEq] at ran <;>
        obtain ⟨rfl, rfl⟩ := ran <;>
        simpa [went] using queued
    | queue _ | cancel _ | begin => simp [exec] at ran
  | cancelling w pc =>
    cases choice with
    | go env =>
      obtain ⟨⟨m'', next⟩, went, same⟩ := Option.map_eq_some_iff.mp ran
      have cancelled := cancelWorkSync_bell went
      cases next <;>
        simp only [Prod.mk.injEq] at same <;>
        obtain ⟨rfl, rfl⟩ := same <;>
        exact cancelled
    | queue _ | cancel _ | begin => simp [exec] at ran
  | worker pc =>
    cases choice with
    | go env =>
      obtain ⟨rfl, rfl⟩ : _ = m' ∧ _ = task' := by simpa [exec] using ran
      exact workqueueWorker_bell m pc
    | queue _ | cancel _ | begin => simp [exec] at ran

section Protocol

variable {Id : Type} [DecidableEq Id]

/-- As long as one worker has been created, no more tasks than that have begun as workers. -/
structure Crew.Single (c : Crew) (roles : Id → Role) : Prop where
  /-- Only created workers wait to begin. -/
  unstarted_le : c.created ≤ 1 → c.unstarted ≤ c.created
  /-- A worker that has begun was created and is not waiting. -/
  begun : c.created ≤ 1 → ∀ t, roles t = .worker → c.created = 1 ∧ c.unstarted = 0
  /-- At most one worker has begun. -/
  one_worker : c.created ≤ 1 → ∀ t u, roles t = .worker → roles u = .worker → t = u

/-- The creation of workers keeps them as many as were created. -/
theorem Crew.Single.step {c c' : Crew} {roles : Id → Role} {t : Id} {role : Role}
    (single : Crew.Single c roles) (stepped : Crew.Step c (roles t) c' role) :
    Crew.Single c' (Function.update roles t role) := by
  obtain ⟨unstarted_le, begun, one_worker⟩ := single
  generalize here : roles t = before at stepped
  cases stepped with
  | keep =>
    rw [← here, Function.update_eq_self]
    exact ⟨unstarted_le, begun, one_worker⟩
  | look | wait | claim | create | fail | publish | leave | begin =>
    constructor <;> grind -ring -linarith

/-- Whoever is about to append has found the worker published, and a worker that blocks is said to
wait and has nothing to do, or is about to be woken. -/
structure Bell.Inv (b : Bell) (parts : Id → Part) : Prop where
  /-- The worker is published before anything is appended. -/
  published : ∀ t, parts t = .ready ∨ parts t = .ringing → b.task = true
  /-- A worker that blocks is said to wait. -/
  waiting : ∀ t, parts t = .blocked → b.waiting = true
  /-- A worker that blocks has nothing to do, or is about to be woken. -/
  heard : ∀ t, parts t = .blocked → b.empty = true ∨ b.unblocked = true ∨
    ∃ u, parts u = .ringing

/-- The protocol keeps its invariant when there is one worker. -/
theorem Bell.Inv.step {b b' : Bell} {parts : Id → Part} {t : Id} {part : Part}
    (inv : Bell.Inv b parts) (stepped : Bell.Step b (parts t) b' part)
    (one : ∀ u, parts u = .awake ∨ parts u = .blocked → parts t = .awake ∨ parts t = .blocked →
      u = t) : Bell.Inv b' (Function.update parts t part) := by
  obtain ⟨published, waiting, heard⟩ := inv
  generalize here : parts t = before at stepped one
  have still : before ≠ .ringing ∨ part = .ringing → (∃ u, parts u = .ringing) →
      ∃ u, Function.update parts t part u = .ringing := by
    rintro known ⟨u, ringing⟩
    by_cases same : u = t
    · exact ⟨t, by grind -ring -linarith⟩
    · exact ⟨u, by rwa [Function.update_of_ne same]⟩
  cases stepped with
  | keep =>
    rw [← here, Function.update_eq_self]
    exact ⟨published, waiting, heard⟩
  | append =>
    have ringing : Function.update parts t Part.ringing t = .ringing := Function.update_self ..
    constructor <;> grind -ring -linarith
  | publish | prepare | refuse | leave | ring | pop | block | wake | remove | begin =>
    constructor <;> grind -ring -linarith

end Protocol

variable {Id : Type}

/-- The list is in order, no more workers have begun than were created, and a worker that blocks has
been heard. -/
structure Heard (p : Tasks Id Item) : Prop where
  /-- The list is in order. -/
  staff : ∃ l, Staff p l
  /-- The workers are those that were created. -/
  crew : Crew.Single (p.shared.queues ()).crew fun t => (p.threads t).role
  /-- A worker that blocks has nothing to do, or is about to be woken. -/
  bell : (p.shared.queues ()).workersCreated ≤ 1 →
    Bell.Inv (p.shared.queues ()).bell fun t => (p.threads t).part

omit [DecidableEq Item] [Fintype Item] in
/-- The part of a worker. -/
theorem Task.role_of_part {task : Task Item} (part : task.part = .awake ∨ task.part = .blocked) :
    task.role = .worker := by
  cases task with
  | worker pc => rfl
  | queueing w pc =>
    cases pc with
    | ensure pc => cases pc <;> simp at part
    | load | cas | append | wake => simp at part
  | cancelling | idle => simp at part

omit [DecidableEq Item] [Fintype Item] in
/-- A new queue has no worker that could block. -/
theorem Fresh.heard {p : Tasks Id Item} (fresh : Fresh p) : Heard p := by
  refine ⟨⟨_, fresh.staffed.staff⟩, ?_, fun _ => ?_⟩
  · constructor <;>
      simp [fresh.queue, fresh.idle, WorkqueueStruct.crew, WorkqueueStruct.alloc]
  · constructor <;> simp [fresh.idle]

variable [DecidableEq Id]

/-- Every step of every task keeps a worker that blocks heard. -/
theorem Heard.step {p q : Tasks Id Item} {a : Id × Choice Item} (heard : Heard p)
    (stepped : Pool.step exec p a = some q) : Heard q := by
  obtain ⟨⟨l, staff⟩, crew, bell⟩ := heard
  obtain ⟨l', staff', -⟩ := staff.step stepped
  obtain ⟨shared, next, ran, rfl⟩ := Pool.step_eq_some.mp stepped
  have followed := exec_crew ran
  have roles : (fun t => (Function.update p.threads a.1 next t).role) =
      Function.update (fun t => (p.threads t).role) a.1 next.role :=
    funext fun t => Function.apply_update (fun _ => Task.role) p.threads a.1 next t
  have parts : (fun t => (Function.update p.threads a.1 next t).part) =
      Function.update (fun t => (p.threads t).part) a.1 next.part :=
    funext fun t => Function.apply_update (fun _ => Task.part) p.threads a.1 next t
  have more : (p.shared.queues ()).workersCreated ≤ (shared.queues ()).workersCreated := by
    have grown : ∀ {c c' : Crew} {r r' : Role}, Crew.Step c r c' r' → c.created ≤ c'.created := by
      intro c c' r r' step
      cases step <;> simp
    exact grown followed
  refine ⟨⟨l', staff'⟩, ?_, fun one => ?_⟩
  · simpa only [roles] using crew.step followed
  · have one_before := more.trans one
    have moved := (bell one_before).step (exec_bell staff.models.list ran) ?_
    · simpa only [parts] using moved
    · intro u worker mover
      exact crew.one_worker one_before u a.1 (Task.role_of_part worker)
        (Task.role_of_part mover)

/-- As long as one worker has been created for a queue, the list is empty whenever the worker
blocks, or is about to, without a pending wake-up while no call of `lcompat_queue_work` stands
between its append and its wake. -/
theorem no_work_stranded {p : Tasks Id Item} (reach : (tasks Fresh).Reachable p)
    (one : (p.shared.queues ()).workersCreated ≤ 1) {t : Id}
    (blocked : p.threads t = .worker .block)
    (still : (p.shared.queues ()).unblocked = false)
    (nobody : ∀ u w pc, p.threads u ≠ .queueing w (.wake pc)) :
    (p.shared.queues ()).head = none := by
  have heard : Heard p := by
    refine reach.invariant Heard (fun _ fresh => fresh.heard) ?_
    exact fun _ _ _ heard _ stepped => heard.step stepped
  have part : (p.threads t).part = .blocked := by rw [blocked]; rfl
  obtain empty | woken | ⟨u, ringing⟩ := (heard.bell one).heard t part
  · simpa [WorkqueueStruct.bell] using empty
  · have never : true = false := woken.symm.trans still
    cases never
  · exfalso
    cases here : p.threads u with
    | queueing w pc =>
      cases pc with
      | wake pc => exact nobody u w pc here
      | ensure pc => cases pc <;> simp [here] at ringing
      | load | cas | append => simp [here] at ringing
    | worker pc => cases pc <;> simp [here] at ringing
    | cancelling | idle => simp [here] at ringing

/-- One call queues an item, creating the worker, which executes it and blocks: the list is
empty. -/
theorem no_work_stranded_executed : ∃ p : Tasks (Fin 2) Unit, (tasks Fresh).Reachable p ∧
    p.threads 1 = .worker .block ∧ (p.shared.queues ()).head = none := by
  have ran : ∃ p, (tasks Fresh).run newQueue
      ([(0, .queue ())] ++ List.replicate 10 (0, .go .ready) ++ [(1, .begin)] ++
        List.replicate 10 (1, .go .ready)) = some p ∧
      (p.shared.queues ()).workersCreated = 1 ∧ p.threads 1 = .worker .block ∧
      (p.shared.queues ()).unblocked = false ∧ p.threads 0 = .idle :=
    ⟨_, rfl, rfl, rfl, rfl, rfl⟩
  obtain ⟨p, executed, created, blocked, still, idle⟩ := ran
  have reach : (tasks Fresh).Reachable p := System.reachable_of_run newQueue_fresh executed
  refine ⟨p, reach, blocked, no_work_stranded reach (by omega) blocked still ?_⟩
  intro u w pc here
  obtain rfl | rfl : u = 0 ∨ u = 1 := by omega
  · rw [idle] at here
    cases here
  · rw [blocked] at here
    cases here

end Lcompat.Workqueue

import Lcompat.Workqueue.Model

/-!
# When a queueing call is refused

The interleavings of any number of tasks that call the functions of `workqueue.c` on any queues
and items, with the worker tasks and the timer tasks that these calls create. A call made by a work
function is a call of another task here, while the worker is inside the function.

`lcompat_queue_work` asks only whether the item is `QUEUED`. A delay asks for an item that is
neither `QUEUED` nor `RUNNING`, so it is also refused while the item's own function is executing.
-/

namespace Lcompat.Workqueue

open Lcompat.Logic

/-- What a task is doing. -/
inductive Agent (Queue Item : Type) where
  /-- Outside the functions. -/
  | idle
  /-- In `lcompat_queue_work`. -/
  | queueing (q : Queue) (w : Item) (pc : QueuePc)
  /-- In `lcompat_queue_delayed_work`. -/
  | delaying (q : Queue) (w : Item) (delay : UInt64) (pc : QueueDelayedPc)
  /-- In `lcompat_cancel_work_sync`. -/
  | cancelling (w : Item) (pc : CancelPc Queue)
  /-- In `lcompat_cancel_delayed_work_sync`. -/
  | cancellingDelayed (w : Item) (pc : CancelDelayedPc Queue)
  /-- A worker of a queue. -/
  | worker (q : Queue) (pc : WorkerPc Item)
  /-- A timer task of an item. -/
  | timer (w : Item) (pc : TimerPc Queue)
  deriving DecidableEq

/-- What a task does next. -/
inductive Act (Queue Item : Type) where
  /-- Call `lcompat_queue_work`. -/
  | queue (q : Queue) (w : Item)
  /-- Call `lcompat_queue_delayed_work`. -/
  | delay (q : Queue) (w : Item) (delay : UInt64)
  /-- Call `lcompat_cancel_work_sync`. -/
  | cancel (w : Item)
  /-- Call `lcompat_cancel_delayed_work_sync`. -/
  | cancelDelayed (w : Item)
  /-- Begin as a worker task that was created. -/
  | beginWorker (q : Queue)
  /-- Begin as a timer task that was created. -/
  | beginTimer (w : Item)
  /-- Take the next step of the function it is in. -/
  | go (env : Env)
  deriving DecidableEq

variable {Queue Item : Type} [DecidableEq Queue] [DecidableEq Item] [Fintype Item]

/-- The next step of a task, for a system queue. -/
def agentExec (systemWq : Queue) (m : Memory Queue Item) (agent : Agent Queue Item)
    (act : Act Queue Item) : Option (Memory Queue Item × Agent Queue Item) :=
  match agent, act with
  | .idle, .queue q w => some (m, .queueing q w .start)
  | .idle, .delay q w delay => some (m, .delaying q w delay (.start delay))
  | .idle, .cancel w => some (m, .cancelling w .loadWq)
  | .idle, .cancelDelayed w => some (m, .cancellingDelayed w .loadActive)
  | .idle, .beginWorker q =>
    if 0 < (m.queues q).workersUnstarted then
      some (m.setQueue q fun wq => { wq with workersUnstarted := wq.workersUnstarted - 1 },
        .worker q .pop)
    else none
  | .idle, .beginTimer w =>
    if 0 < (m.works w).timersUnstarted then
      some (m.setWork w fun work => { work with timersUnstarted := work.timersUnstarted - 1 },
        .timer w .loadGeneration)
    else none
  | .queueing q w pc, .go env =>
    match queueWork q w env m pc with
    | (m, .goto pc) => some (m, .queueing q w pc)
    | (m, .ret _) => some (m, .idle)
  | .delaying q w delay pc, .go env =>
    match queueDelayedWork q w delay env m pc with
    | (m, .goto pc) => some (m, .delaying q w delay pc)
    | (m, .ret _) => some (m, .idle)
  | .cancelling w pc, .go _ =>
    (cancelWorkSync w m pc).map fun
    | (m, .goto pc) => (m, .cancelling w pc)
    | (m, .ret _) => (m, .idle)
  | .cancellingDelayed w pc, .go _ =>
    (cancelDelayedWorkSync w m pc).map fun
    | (m, .goto pc) => (m, .cancellingDelayed w pc)
    | (m, .ret _) => (m, .idle)
  | .worker q pc, .go _ =>
    match workqueueWorker q m pc with
    | (m, pc) => some (m, .worker q pc)
  | .timer w pc, .go env =>
    match delayedWorkWorker systemWq w env m pc with
    | (m, .goto pc) => some (m, .timer w pc)
    | (m, .ret _) => some (m, .idle)
  | _, _ => none

/-- Why a queueing call returned false. -/
inductive Refusal where
  /-- The item is `QUEUED`: it is in a list, or its delay is running. -/
  | pending
  /-- There is no worker task or no timer task, and none could be created. -/
  | noTask
  /-- Neither of these. -/
  | other
  deriving DecidableEq

/-- Why a call returned false, where it may have given up for the lack of a task. -/
def WorkStruct.refusal {Queue : Type} (work : WorkStruct Queue) (gaveUp : Bool) : Refusal :=
  if work.state.queued then .pending else if gaveUp then .noTask else .other

/-- A step that gives up for the lack of a worker task. -/
def QueuePc.givesUp : QueuePc → Bool
  | .ensure _ => true
  | .load | .cas _ | .append | .wake _ => false

/-- A step that gives up for the lack of a task. -/
def QueueDelayedPc.givesUp : QueueDelayedPc → Bool
  | .queueNow pc => pc.givesUp
  | .undoGeneration => true
  | .casState | .storeWq | .storeExpires | .storeActive | .incGeneration | .create | .undoActive
  | .undoState => false

/-- The refusals of the next step of a task. -/
def Agent.refusals (m : Memory Queue Item) :
    Agent Queue Item → Act Queue Item → List Refusal
  | .queueing q w pc, .go env =>
    match queueWork q w env m pc with
    | (_, .ret false) => [(m.works w).refusal pc.givesUp]
    | _ => []
  | .delaying q w delay pc, .go env =>
    match queueDelayedWork q w delay env m pc with
    | (_, .ret false) => [(m.works w).refusal pc.givesUp]
    | _ => []
  | _, _ => []

variable {Id : Type} [DecidableEq Id]

/-- The queues, the items and the tasks that use them. -/
abbrev Agents (Id Queue Item : Type) := Pool Id (Memory Queue Item) (Agent Queue Item)

/-- Queues that have just been allocated, items that have just been initialised, and nobody inside
a function. -/
structure AllFresh (p : Agents Id Queue Item) : Prop where
  /-- The queues are new. -/
  queues : ∀ q, p.shared.queues q = .alloc
  /-- The items are new, delayed or not. -/
  items : ∀ w, p.shared.works w = .init (p.shared.works w).delayedOwner
  /-- No call is under way. -/
  idle : ∀ t, p.threads t = .idle

/-- Every interleaving of the tasks, with the refusals of their calls. -/
def agents (Id : Type) [DecidableEq Id] (systemWq : Queue) :
    System (Agents Id Queue Item × List Refusal) (Id × Act Queue Item) :=
  (Pool.system (agentExec systemWq) AllFresh).record fun p a =>
    (p.threads a.1).refusals p.shared a.2

/-- A task is about to exchange the state of an item for a delay. -/
def Agent.exchanges (w : Item) : Agent Queue Item → Bool
  | .delaying _ v _ .casState => v = w
  | _ => false

/-- A worker is executing an item, from the exchange to the end of `RUNNING`. -/
def WorkerPc.executes (w : Item) : WorkerPc Item → Bool
  | .setRunning v | .call v | .inFunc v | .clearRunning v | .clearState v => v = w
  | .pop | .block | .load _ | .cas _ _ | .close _ => false

/-- A task is executing an item. -/
def Agent.executes (w : Item) : Agent Queue Item → Bool
  | .worker _ pc => pc.executes w
  | _ => false

/-- Every refused call was refused since the item is pending or there is no task. -/
def Explained (s : Agents Id Queue Item × List Refusal) : Prop :=
  Refusal.other ∉ s.2

/-- A delay does not find an item that is `RUNNING` and not `QUEUED`. -/
def FindsIdle (s : Agents Id Queue Item × List Refusal) (a : Id × Act Queue Item) : Prop :=
  ∀ w, (s.1.threads a.1).exchanges w = true → (s.1.shared.works w).state ≠ ⟨false, true⟩

/-- A delay is not asked for while the function of the item is executing, or the item is pending. -/
def Unexecuting (s : Agents Id Queue Item × List Refusal) (a : Id × Act Queue Item) : Prop :=
  ∀ w, (s.1.threads a.1).exchanges w = true →
    (s.1.shared.works w).state.queued = true ∨ ∀ t, (s.1.threads t).executes w = false

section Refusals

variable {q : Queue} {w : Item} {m m' : Memory Queue Item}

omit [DecidableEq Queue] [DecidableEq Item] [Fintype Item] in
/-- The reason is neither of the two when the item is not `QUEUED` and the call did not give up. -/
theorem other_eq_refusal {work : WorkStruct Queue} {gaveUp : Bool} :
    .other = work.refusal gaveUp ↔ work.state.queued = false ∧ gaveUp = false := by
  unfold WorkStruct.refusal
  cases work.state.queued <;> cases gaveUp <;> simp

omit [Fintype Item] in
/-- `lcompat_queue_work` refuses an item that is `QUEUED`, or gives up. -/
theorem queueWork_refuses {env : Env} {pc : QueuePc}
    (refused : queueWork q w env m pc = (m', .ret false)) :
    pc.givesUp = true ∨ (m.works w).state.queued = true := by
  cases pc with
  | ensure pc => exact .inl rfl
  | load =>
    right
    by_contra clear
    simp [queueWork, clear] at refused
  | cas running =>
    simp only [queueWork] at refused
    split at refused <;> simp at refused
  | append => simp [queueWork] at refused
  | wake pc =>
    rcases went : workqueueWake q m pc with ⟨m'', pc' | done⟩ <;> simp [queueWork, went] at refused

omit [Fintype Item] in
/-- A call is refused for neither reason exactly when a delay finds an item that is `RUNNING` and
not `QUEUED`. -/
theorem other_mem_refusals {agent : Agent Queue Item} {env : Env} :
    Refusal.other ∈ agent.refusals m (.go env) ↔
      ∃ w, agent.exchanges w = true ∧ (m.works w).state = ⟨false, true⟩ := by
  cases agent with
  | queueing q w pc =>
    simp only [Agent.refusals, Agent.exchanges, Bool.false_eq_true, false_and, exists_false,
      iff_false]
    rcases went : queueWork q w env m pc with ⟨m', pc' | accepted⟩
    · simp
    · cases accepted
      · rcases queueWork_refuses went with gaveUp | queued <;>
          simp [other_eq_refusal, *]
      · simp
  | delaying q w delay pc =>
    cases pc with
    | queueNow pc =>
      simp only [Agent.refusals, Agent.exchanges, Bool.false_eq_true, false_and, exists_false,
        iff_false, queueDelayedWork, QueueDelayedPc.givesUp]
      rcases went : queueWork q w env m pc with ⟨m', pc' | accepted⟩
      · simp
      · cases accepted
        · rcases queueWork_refuses went with gaveUp | queued <;>
            simp [other_eq_refusal, *]
        · simp
    | casState =>
      rcases state : (m.works w).state with ⟨queued, running⟩
      cases queued <;> cases running <;>
        simp [Agent.refusals, Agent.exchanges, queueDelayedWork, state, other_eq_refusal,
          QueueDelayedPc.givesUp]
    | create =>
      cases created : env.created <;>
        simp [Agent.refusals, Agent.exchanges, queueDelayedWork, created]
    | undoGeneration =>
      simp [Agent.refusals, Agent.exchanges, queueDelayedWork, other_eq_refusal,
        QueueDelayedPc.givesUp]
    | storeWq | storeExpires | storeActive | incGeneration | undoActive | undoState =>
      simp [Agent.refusals, Agent.exchanges, queueDelayedWork]
  | idle | cancelling w pc | cancellingDelayed w pc | worker q pc | timer w pc =>
    simp [Agent.refusals, Agent.exchanges]

omit [Fintype Item] in
/-- A delay is refused in a state where `lcompat_queue_work` is not exactly when the item is
`RUNNING` and not `QUEUED`. -/
theorem refuses_alike_iff (q : Queue) (w : Item) (delay : UInt64) (env : Env)
    (m : Memory Queue Item) :
    ((queueDelayedWork q w delay env m .casState).2 = .ret false ↔
      (queueWork q w env m .load).2 = .ret false) ↔ (m.works w).state ≠ ⟨false, true⟩ := by
  rcases state : (m.works w).state with ⟨queued, running⟩
  cases queued <;> cases running <;> simp [queueDelayedWork, queueWork, state]

end Refusals

/-- No item becomes `RUNNING`. -/
def Calm (m m' : Memory Queue Item) : Prop :=
  ∀ w, (m'.works w).state.running = true → (m.works w).state.running = true

section Executions

variable {q : Queue} {w : Item} {m m' : Memory Queue Item}

omit [DecidableEq Queue] [DecidableEq Item] [Fintype Item] in
/-- Items that stay the same do not become `RUNNING`. -/
theorem Calm.of_works (same : m'.works = m.works) : Calm m m' := by
  intro w running
  rwa [same] at running

omit [DecidableEq Queue] [DecidableEq Item] [Fintype Item] in
/-- One step after another. -/
theorem Calm.trans {m'' : Memory Queue Item} (first : Calm m m') (second : Calm m' m'') :
    Calm m m'' :=
  fun w running => first w (second w running)

omit [DecidableEq Queue] [Fintype Item] in
/-- An item that is written is `RUNNING` if it was before. -/
theorem Calm.setWork (w : Item) {change : WorkStruct Queue → WorkStruct Queue}
    (calm : (change (m.works w)).state.running = true → (m.works w).state.running = true) :
    Calm m (m.setWork w change) := by
  intro v running
  by_cases same : v = w
  · subst same
    rw [Memory.setWork_works_self] at running
    exact calm running
  · rwa [m.setWork_works_of_ne w same] at running

omit [Fintype Item] in
/-- A step of `lcompat_queue_work`. -/
theorem queueWork_calm (q : Queue) (w : Item) (env : Env) (m : Memory Queue Item) (pc : QueuePc) :
    Calm m (queueWork q w env m pc).1 := by
  cases pc with
  | ensure pc =>
    have same := workqueueEnsureWorker_works q env m pc
    rcases went : workqueueEnsureWorker q env m pc with ⟨m', pc' | ready⟩ <;>
      rw [went] at same <;> simpa [queueWork, went] using Calm.of_works same
  | load => exact Calm.of_works rfl
  | cas running =>
    simp only [queueWork]
    split
    · rename_i found
      dsimp only
      apply Calm.setWork
      rw [found]
      exact id
    · exact Calm.of_works rfl
  | append =>
    have listed : Calm m (m.setList q ((m.list q).append w)) := Calm.of_works rfl
    refine listed.trans ?_
    dsimp only [queueWork]
    apply Calm.setWork
    exact id
  | wake pc =>
    have same := workqueueWake_works q m pc
    rcases went : workqueueWake q m pc with ⟨m', pc' | done⟩ <;>
      rw [went] at same <;> simpa [queueWork, went] using Calm.of_works same

omit [Fintype Item] in
/-- A step of `lcompat_queue_delayed_work`. -/
theorem queueDelayedWork_calm (q : Queue) (w : Item) (delay : UInt64) (env : Env)
    (m : Memory Queue Item) (pc : QueueDelayedPc) :
    Calm m (queueDelayedWork q w delay env m pc).1 := by
  cases pc with
  | queueNow pc =>
    have calm := queueWork_calm q w env m pc
    rcases went : queueWork q w env m pc with ⟨m', pc' | accepted⟩ <;>
      rw [went] at calm <;> simpa [queueDelayedWork, went] using calm
  | casState =>
    simp only [queueDelayedWork]
    split
    · dsimp only
      apply Calm.setWork
      exact fun executing => nomatch executing
    · exact Calm.of_works rfl
  | storeWq | storeExpires | storeActive | incGeneration | undoActive | undoGeneration =>
    dsimp only [queueDelayedWork]
    apply Calm.setWork
    exact id
  | create =>
    simp only [queueDelayedWork]
    split
    · dsimp only
      apply Calm.setWork
      exact id
    · exact Calm.of_works rfl
  | undoState =>
    dsimp only [queueDelayedWork]
    apply Calm.setWork
    exact fun executing => nomatch executing

/-- A step of `lcompat_cancel_work_sync`. -/
theorem cancelWorkSync_calm {pc : CancelPc Queue} {next : Next (CancelPc Queue) Bool}
    (ran : cancelWorkSync w m pc = some (m', next)) : Calm m m' := by
  cases pc with
  | loadWq | spin canceled =>
    obtain ⟨rfl, -⟩ := Prod.mk.inj (Option.some.inj ran)
    exact Calm.of_works rfl
  | remove q =>
    obtain ⟨⟨m₁, found⟩, removed, same⟩ := Option.map_eq_some_iff.mp ran
    obtain ⟨⟨l, found'⟩, -, written⟩ := Option.map_eq_some_iff.mp removed
    have calm : Calm m m₁ := by
      cases found'
      · obtain ⟨rfl, -⟩ := Prod.mk.inj written
        exact Calm.of_works rfl
      · obtain ⟨rfl, -⟩ := Prod.mk.inj written
        have listed : Calm m (m.setList q l) := Calm.of_works rfl
        refine listed.trans ?_
        apply Calm.setWork
        exact id
    cases found <;> obtain ⟨rfl, -⟩ := Prod.mk.inj same <;> exact calm
  | clearQueued =>
    obtain ⟨rfl, -⟩ := Prod.mk.inj (Option.some.inj ran)
    apply Calm.setWork
    exact id

/-- A step of `lcompat_cancel_delayed_work_sync`. -/
theorem cancelDelayedWorkSync_calm {pc : CancelDelayedPc Queue}
    {next : Next (CancelDelayedPc Queue) Bool}
    (ran : cancelDelayedWorkSync w m pc = some (m', next)) : Calm m m' := by
  cases pc with
  | loadActive | loadState | loadRunning | spinRunning pending =>
    obtain ⟨rfl, -⟩ := Prod.mk.inj (Option.some.inj ran)
    exact Calm.of_works rfl
  | clearActive pending | incGeneration pending =>
    obtain ⟨rfl, -⟩ := Prod.mk.inj (Option.some.inj ran)
    apply Calm.setWork
    exact id
  | cancel pending pc =>
    obtain ⟨⟨m₁, next₁⟩, cancelled, same⟩ := Option.map_eq_some_iff.mp ran
    have calm := cancelWorkSync_calm cancelled
    cases next₁ <;> obtain ⟨rfl, -⟩ := Prod.mk.inj same <;> exact calm

omit [Fintype Item] in
/-- A step of a timer task. -/
theorem delayedWorkWorker_calm (systemWq : Queue) (w : Item) (env : Env) (m : Memory Queue Item)
    (pc : TimerPc Queue) : Calm m (delayedWorkWorker systemWq w env m pc).1 := by
  cases pc with
  | loadGeneration | loadExpires generation | loadWq generation expires | loopActive vars
  | loopGeneration vars | loopTime vars | checkActive vars | checkGeneration vars =>
    exact Calm.of_works rfl
  | reset =>
    dsimp only [delayedWorkWorker]
    apply Calm.setWork
    exact fun executing => nomatch executing
  | clearActive vars =>
    dsimp only [delayedWorkWorker]
    apply Calm.setWork
    exact id
  | casState vars =>
    simp only [delayedWorkWorker]
    split
    · dsimp only
      apply Calm.setWork
      exact fun executing => nomatch executing
    · exact Calm.of_works rfl
  | queue q pc =>
    have calm := queueWork_calm q w env m pc
    rcases went : queueWork q w env m pc with ⟨m', pc' | accepted⟩ <;>
      rw [went] at calm <;> simpa [delayedWorkWorker, went] using calm

omit [Fintype Item] in
/-- After a step of a worker, an item that is `RUNNING` is executed by this worker, or was
`RUNNING` before and was not executed by it. -/
theorem workqueueWorker_running (q : Queue) (m : Memory Queue Item) (pc : WorkerPc Item) (v : Item)
    (running : ((workqueueWorker q m pc).1.works v).state.running = true) :
    (workqueueWorker q m pc).2.executes v = true ∨
      (m.works v).state.running = true ∧ pc.executes v = false := by
  cases pc with
  | pop =>
    right
    refine ⟨?_, rfl⟩
    simp only [workqueueWorker, workqueuePopLocked] at running
    split at running <;> exact running
  | block =>
    right
    refine ⟨?_, rfl⟩
    simp only [workqueueWorker] at running
    split at running <;> exact running
  | load w => exact .inr ⟨running, rfl⟩
  | cas w was =>
    simp only [workqueueWorker] at running ⊢
    split at running
    · rename_i found
      by_cases same : v = w
      · left
        simp [found, same, WorkerPc.executes]
      · rw [m.setWork_works_of_ne w same] at running
        exact .inr ⟨running, rfl⟩
    · exact .inr ⟨running, rfl⟩
  | setRunning w | call w | inFunc w | clearRunning w =>
    by_cases same : v = w
    · left
      simp [workqueueWorker, same, WorkerPc.executes]
    · right
      have kept : (m.works v).state.running = true := by
        first
          | exact running
          | simpa only [workqueueWorker, m.setWork_works_of_ne w same] using running
      simp [kept, WorkerPc.executes, Ne.symm same]
  | clearState w =>
    by_cases same : v = w
    · subst same
      simp [workqueueWorker] at running
    · simp only [workqueueWorker, m.setWork_works_of_ne w same] at running
      simp [running, WorkerPc.executes, Ne.symm same]
  | close w =>
    right
    refine ⟨?_, rfl⟩
    have closed : Calm m (m.setWork w fun work =>
        if work.state.queued then work else { work with wq := none }) := by
      refine Calm.setWork w ?_
      split <;> exact id
    exact closed v running

/-- After a step of a task, an item that is `RUNNING` is executed by this task, or was `RUNNING`
before and was not executed by it. -/
theorem agentExec_running {systemWq : Queue} {agent next : Agent Queue Item} {act : Act Queue Item}
    (ran : agentExec systemWq m agent act = some (m', next)) {v : Item}
    (running : (m'.works v).state.running = true) : next.executes v = true ∨
      (m.works v).state.running = true ∧ agent.executes v = false := by
  have calmed : Calm m m' → agent.executes v = false → next.executes v = true ∨
      (m.works v).state.running = true ∧ agent.executes v = false :=
    fun calm other => .inr ⟨calm v running, other⟩
  cases agent with
  | idle =>
    refine calmed ?_ rfl
    cases act with
    | queue q w | delay q w delay | cancel w | cancelDelayed w =>
      obtain ⟨rfl, -⟩ := Prod.mk.inj (Option.some.inj ran)
      exact Calm.of_works rfl
    | beginWorker q =>
      simp only [agentExec, Option.ite_none_right_eq_some, Option.some.injEq, Prod.mk.injEq] at ran
      rw [← ran.2.1]
      exact Calm.of_works rfl
    | beginTimer w =>
      simp only [agentExec, Option.ite_none_right_eq_some, Option.some.injEq, Prod.mk.injEq] at ran
      rw [← ran.2.1]
      exact Calm.setWork w id
    | go env => exact nomatch ran
  | queueing q w pc =>
    refine calmed ?_ rfl
    cases act with
    | go env =>
      have calm := queueWork_calm q w env m pc
      rcases went : queueWork q w env m pc with ⟨m₁, pc' | accepted⟩ <;>
        rw [went] at calm <;> simp only [agentExec, went, Option.some.injEq,
          Prod.mk.injEq] at ran <;>
        exact ran.1 ▸ calm
    | _ => exact nomatch ran
  | delaying q w delay pc =>
    refine calmed ?_ rfl
    cases act with
    | go env =>
      have calm := queueDelayedWork_calm q w delay env m pc
      rcases went : queueDelayedWork q w delay env m pc with ⟨m₁, pc' | accepted⟩ <;>
        rw [went] at calm <;> simp only [agentExec, went, Option.some.injEq,
          Prod.mk.injEq] at ran <;>
        exact ran.1 ▸ calm
    | _ => exact nomatch ran
  | cancelling w pc =>
    refine calmed ?_ rfl
    cases act with
    | go env =>
      obtain ⟨⟨m₁, next₁⟩, cancelled, same⟩ := Option.map_eq_some_iff.mp ran
      have calm := cancelWorkSync_calm cancelled
      cases next₁ <;> exact (Prod.mk.inj same).1 ▸ calm
    | _ => exact nomatch ran
  | cancellingDelayed w pc =>
    refine calmed ?_ rfl
    cases act with
    | go env =>
      obtain ⟨⟨m₁, next₁⟩, cancelled, same⟩ := Option.map_eq_some_iff.mp ran
      have calm := cancelDelayedWorkSync_calm cancelled
      cases next₁ <;> exact (Prod.mk.inj same).1 ▸ calm
    | _ => exact nomatch ran
  | worker q pc =>
    cases act with
    | go env =>
      obtain ⟨rfl, rfl⟩ := Prod.mk.inj (Option.some.inj ran)
      exact workqueueWorker_running q m pc v running
    | _ => exact nomatch ran
  | timer w pc =>
    refine calmed ?_ rfl
    cases act with
    | go env =>
      have calm := delayedWorkWorker_calm systemWq w env m pc
      rcases went : delayedWorkWorker systemWq w env m pc with ⟨m₁, pc' | done⟩ <;>
        rw [went] at calm <;> simp only [agentExec, went, Option.some.injEq,
          Prod.mk.injEq] at ran <;>
        exact ran.1 ▸ calm
    | _ => exact nomatch ran

end Executions

section Runs

variable {Id : Type} [DecidableEq Id] {systemWq : Queue} {s t : Agents Id Queue Item × List Refusal}
  {a : Id × Act Queue Item}

/-- An item that is `RUNNING` is executed by a task. -/
def Executed (s : Agents Id Queue Item × List Refusal) : Prop :=
  ∀ w, (s.1.shared.works w).state.running = true → ∃ u, (s.1.threads u).executes w = true

/-- Every step keeps who executes what. -/
theorem Executed.step (executed : Executed s)
    (stepped : (agents Id systemWq).step s a = some t) : Executed t := by
  obtain ⟨moved, -⟩ := System.record_step_eq_some.mp stepped
  obtain ⟨m', next, ran, same⟩ := Pool.step_eq_some.mp moved
  intro w running
  rw [same] at running ⊢
  rcases agentExec_running ran running with here | ⟨before, notHere⟩
  · exact ⟨a.1, by simpa using here⟩
  · obtain ⟨u, executes⟩ := executed w before
    have apart : u ≠ a.1 := by
      intro equal
      rw [equal, notHere] at executes
      exact Bool.false_ne_true executes
    exact ⟨u, by simpa [apart] using executes⟩

omit [DecidableEq Queue] [Fintype Item] [DecidableEq Id] in
/-- A delay that is asked for while the function is not executing finds the item idle or pending. -/
theorem Executed.findsIdle (executed : Executed s) (unexecuting : Unexecuting s a) :
    FindsIdle s a := by
  intro w exchanges found
  rcases unexecuting w exchanges with queued | nobody
  · rw [found] at queued
    exact Bool.false_ne_true queued
  · obtain ⟨u, executes⟩ := executed w (by rw [found])
    rw [nobody u] at executes
    exact Bool.false_ne_true executes

/-- A step is refused for neither reason exactly when a delay does not find the item idle. -/
theorem explained_step (stepped : (agents Id systemWq).step s a = some t) :
    Explained t ↔ Explained s ∧ FindsIdle s a := by
  obtain ⟨moved, notes⟩ := System.record_step_eq_some.mp stepped
  have asked : ∀ w, (s.1.threads a.1).exchanges w = true → ∃ env, a.2 = .go env := by
    intro w exchanges
    obtain ⟨m', next, ran, -⟩ := Pool.step_eq_some.mp moved
    obtain ⟨id, act⟩ := a
    cases act with
    | go env => exact ⟨env, rfl⟩
    | _ =>
      cases here : s.1.threads id with
      | delaying q v delay pc =>
        dsimp only at ran
        rw [here] at ran
        exact nomatch ran
      | _ =>
        dsimp only at exchanges
        rw [here] at exchanges
        exact nomatch exchanges
  have noted : Refusal.other ∈ (s.1.threads a.1).refusals s.1.shared a.2 ↔ ¬FindsIdle s a := by
    unfold FindsIdle
    push Not
    constructor
    · intro refused
      obtain ⟨id, act⟩ := a
      cases act with
      | go env => exact other_mem_refusals.mp refused
      | _ => cases here : s.1.threads id <;> simp [here, Agent.refusals] at refused
    · rintro ⟨w, exchanges, found⟩
      obtain ⟨env, same⟩ := asked w exchanges
      rw [same]
      exact other_mem_refusals.mpr ⟨w, exchanges, found⟩
  unfold Explained
  rw [notes, List.mem_append, noted]
  tauto

/-- In every run, calls are refused only for items that are pending or for the lack of a task if
and only if no delay finds an item that is `RUNNING` and not `QUEUED`, which is when
`lcompat_queue_work` would not refuse it. This is so when no delay is asked for while the function
of the item is executing. -/
theorem delays_refused_iff {labels : List (Id × Act Queue Item)}
    (begun : (agents Id systemWq).init s) (ran : (agents Id systemWq).run s labels = some t) :
    ((agents Id systemWq).Throughout Explained s labels ↔
      (agents Id systemWq).Along FindsIdle s labels) ∧
    (∀ q w delay env (m : Memory Queue Item),
      ((queueDelayedWork q w delay env m .casState).2 = .ret false ↔
        (queueWork q w env m .load).2 = .ret false) ↔ (m.works w).state ≠ ⟨false, true⟩) ∧
    ((agents Id systemWq).Along Unexecuting s labels →
      (agents Id systemWq).Throughout Explained s labels) := by
  obtain ⟨⟨-, items, -⟩, noNotes⟩ := begun
  have explained : Explained s := by
    rw [Explained, noNotes]
    exact List.not_mem_nil
  have executed : Executed s := by
    intro w running
    rw [items w] at running
    exact nomatch running
  have lawful : (agents Id systemWq).Along (fun _ _ => True) s labels :=
    System.along_of_forall (fun _ _ => trivial) s labels
  have exact_ : (agents Id systemWq).Throughout Explained s labels ↔
      (agents Id systemWq).Along FindsIdle s labels :=
    System.throughout_iff_along (fun _ => id)
      (fun _ _ _ inv _ ok stepped => (explained_step stepped).mpr ⟨inv, ok⟩)
      (fun _ _ _ _ _ stepped holds => ((explained_step stepped).mp holds).2) explained lawful ran
  refine ⟨exact_, refuses_alike_iff, fun unexecuting => exact_.mpr ?_⟩
  have both : (agents Id systemWq).Along (fun s a => Unexecuting s a ∧ FindsIdle s a) s labels :=
    (System.along_iff_along (fun s a inv => ⟨fun un => ⟨un, inv.findsIdle un⟩, And.left⟩)
      (fun _ _ _ inv stepped => inv.step stepped) executed).mp unexecuting
  exact both.mono fun _ _ => And.right

end Runs

section Instances

/-- It can be decided what a delay finds. -/
instance {Id : Type} (s : Agents Id Queue Item × List Refusal) (a : Id × Act Queue Item) :
    Decidable (FindsIdle s a) :=
  inferInstanceAs (Decidable (∀ w, (s.1.threads a.1).exchanges w = true →
    (s.1.shared.works w).state ≠ ⟨false, true⟩))

/-- A new queue, a new delayed item, and three tasks that do nothing yet. -/
def rested : Agents (Fin 3) Unit Unit × List Refusal :=
  (⟨⟨fun _ => .alloc, fun _ => .init true, fun _ => none⟩, fun _ => .idle⟩, [])

/-- They are new. -/
theorem rested_init : (agents (Fin 3) ()).init rested :=
  ⟨⟨fun _ => rfl, fun _ => rfl, fun _ => rfl⟩, rfl⟩

/-- A number of steps of a task. -/
def steps (t : Fin 3) (count : Nat) : List (Fin 3 × Act Unit Unit) :=
  List.replicate count (t, .go ⟨true, 0⟩)

/-- A delay is asked for while another one is running. -/
def askedTwice : List (Fin 3 × Act Unit Unit) :=
  (0, .delay () () 5) :: steps 0 6 ++ (1, .delay () () 5) :: steps 1 1

/-- The second one is refused since the item is pending. -/
theorem delays_refused_iff_asked_twice : ∃ t, (agents (Fin 3) ()).run rested askedTwice = some t ∧
    t.2 = [.pending] ∧ (agents (Fin 3) ()).Throughout Explained rested askedTwice := by
  have ran : ((agents (Fin 3) ()).runWith FindsIdle rested askedTwice).map (fun t => t.2) =
      some [.pending] := by
    decide +kernel
  obtain ⟨t, executed, notes⟩ := Option.map_eq_some_iff.mp ran
  obtain ⟨along, run⟩ := System.along_of_runWith executed
  exact ⟨t, run, notes, (delays_refused_iff rested_init run).1.mpr along⟩

/-- The function of an item asks for a delay, from another task while the worker is inside it. The
delay is refused, and the item is not pending. -/
theorem delays_refused_in_function : ¬∀ s : Agents (Fin 3) Unit Unit × List Refusal,
    (agents (Fin 3) ()).Reachable s → Explained s := by
  intro claimed
  have ran : ((agents (Fin 3) ()).run rested ((0, .queue () ()) :: steps 0 10 ++
      (1, .beginWorker ()) :: steps 1 5 ++ (2, .delay () () 5) :: steps 2 1)).map
        (fun s => (s.2, s.1.threads 1)) = some ([.other], .worker () (.inFunc ())) := by
    decide +kernel
  obtain ⟨s, executed, notes⟩ := Option.map_eq_some_iff.mp ran
  have explained := claimed s (System.reachable_of_run rested_init executed)
  rw [Explained, (Prod.mk.inj notes).1] at explained
  exact explained (List.mem_singleton_self _)

end Instances

end Lcompat.Workqueue

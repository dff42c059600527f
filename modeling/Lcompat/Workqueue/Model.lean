import Lcompat.Logic.LinkedQueue
import Lcompat.Logic.Pool

/-!
# Work queues and delayed work

The functions of `workqueue.c` as sequences of atomic steps over the memory of any number of
queues and work items. One step is one atomic operation, one spin-locked section, one task
creation, or the entry or exit of a work function; a program counter says which step of its
function a task takes next. A function called by another one keeps its own program counter
inside the caller's.

The lists of pending work are kept by pointers as in the source. Two bits of the state word
of a work item are ever used, and they are the two fields of `WorkState`. What the native
kernel answers in a step (whether a task was created, what the clock reads) is the `Env` of
that step; created tasks wait to be started by the scheduler.
-/

namespace Lcompat.Workqueue

open Lcompat.Logic

/-- The state word of a work item: `LCOMPAT_WORK_STATE_QUEUED` and
`LCOMPAT_WORK_STATE_RUNNING`. -/
@[ext]
structure WorkState where
  /-- Bit 0. -/
  queued : Bool
  /-- Bit 1. -/
  running : Bool
  deriving DecidableEq

/-- `struct work_struct` without its link, and the fields of the `struct delayed_work`
around it, which are read only when `delayed_owner` is set. The work function is the
caller's and is never null. -/
structure WorkStruct (Queue : Type) where
  /-- `state`. -/
  state : WorkState
  /-- `wq`, null or a queue. -/
  wq : Option Queue
  /-- Whether `delayed_owner` is set. -/
  delayedOwner : Bool
  /-- `generation`. -/
  generation : UInt32
  /-- `active`: the delay is running. -/
  active : Bool
  /-- `running`: the worker is executing the function. -/
  running : Bool
  /-- `expires`, in jiffies. -/
  expires : UInt64
  /-- Timer tasks created for this item that the scheduler has not started. -/
  timersUnstarted : Nat

/-- `struct workqueue_struct` without its name and flags, and the worker tasks that were
created for it. -/
structure WorkqueueStruct (Item : Type) where
  /-- `head`. -/
  head : Option Item
  /-- `tail`. -/
  tail : Option Item
  /-- Whether `worker_task` is set. -/
  workerTask : Bool
  /-- `worker_starting`. -/
  workerStarting : Bool
  /-- `worker_waiting`. -/
  workerWaiting : Bool
  /-- `active`. -/
  active : Nat
  /-- Successful creations of a worker task for this queue. -/
  workersCreated : Nat
  /-- Created worker tasks that the scheduler has not started. -/
  workersUnstarted : Nat
  /-- Whether a `task_unblock` of the worker is pending. -/
  unblocked : Bool

/-- `lcompat_init_work`, and `lcompat_init_delayed_work` for a delayed item. -/
def WorkStruct.init {Queue : Type} (delayed : Bool) : WorkStruct Queue where
  state := ⟨false, false⟩
  wq := none
  delayedOwner := delayed
  generation := 0
  active := false
  running := false
  expires := 0
  timersUnstarted := 0

/-- The queue `lcompat_alloc_workqueue` returns, which is also how a static queue begins. -/
def WorkqueueStruct.alloc {Item : Type} : WorkqueueStruct Item where
  head := none
  tail := none
  workerTask := false
  workerStarting := false
  workerWaiting := false
  active := 0
  workersCreated := 0
  workersUnstarted := 0
  unblocked := false

/-- Memory shared by all tasks. -/
structure Memory (Queue Item : Type) where
  /-- The queues. -/
  queues : Queue → WorkqueueStruct Item
  /-- The work items. -/
  works : Item → WorkStruct Queue
  /-- The links `work->next`. -/
  next : Item → Option Item

/-- What the native kernel answers in one step. -/
structure Env where
  /-- Whether `task_create` succeeds. -/
  created : Bool
  /-- What `lcompat_jiffies_refresh` returns. -/
  now : UInt64
  deriving DecidableEq

variable {Queue Item : Type} [DecidableEq Queue] [DecidableEq Item]

namespace Memory

/-- Change one work item. -/
def setWork (m : Memory Queue Item) (w : Item) (change : WorkStruct Queue → WorkStruct Queue) :
    Memory Queue Item :=
  { m with works := Function.update m.works w (change (m.works w)) }

/-- Change one queue. -/
def setQueue (m : Memory Queue Item) (q : Queue)
    (change : WorkqueueStruct Item → WorkqueueStruct Item) : Memory Queue Item :=
  { m with queues := Function.update m.queues q (change (m.queues q)) }

/-- The list of one queue. -/
def list (m : Memory Queue Item) (q : Queue) : LinkedQueue Item :=
  ⟨(m.queues q).head, (m.queues q).tail, m.next⟩

/-- Write back the list of one queue. -/
def setList (m : Memory Queue Item) (q : Queue) (l : LinkedQueue Item) : Memory Queue Item :=
  { m.setQueue q (fun wq => { wq with head := l.head, tail := l.tail }) with next := l.next }

section Access

variable (m : Memory Queue Item) (q : Queue) (w : Item)

omit [DecidableEq Queue] in
/-- A changed work item. -/
@[simp]
theorem setWork_works_self (change : WorkStruct Queue → WorkStruct Queue) :
    (m.setWork w change).works w = change (m.works w) :=
  Function.update_self ..

omit [DecidableEq Queue] in
/-- Other work items are left alone. -/
theorem setWork_works_of_ne {v : Item} (apart : v ≠ w)
    (change : WorkStruct Queue → WorkStruct Queue) : (m.setWork w change).works v = m.works v :=
  Function.update_of_ne apart ..

omit [DecidableEq Queue] in
/-- Work items do not hold queues. -/
@[simp]
theorem setWork_queues (change : WorkStruct Queue → WorkStruct Queue) :
    (m.setWork w change).queues = m.queues :=
  rfl

omit [DecidableEq Queue] in
/-- Work items do not hold their links. -/
@[simp]
theorem setWork_next (change : WorkStruct Queue → WorkStruct Queue) :
    (m.setWork w change).next = m.next :=
  rfl

omit [DecidableEq Queue] in
/-- A list is not changed through its items. -/
@[simp]
theorem setWork_list (change : WorkStruct Queue → WorkStruct Queue) :
    (m.setWork w change).list q = m.list q :=
  rfl

omit [DecidableEq Item] in
/-- A changed queue. -/
@[simp]
theorem setQueue_queues_self (change : WorkqueueStruct Item → WorkqueueStruct Item) :
    (m.setQueue q change).queues q = change (m.queues q) :=
  Function.update_self ..

omit [DecidableEq Item] in
/-- Queues do not hold work items. -/
@[simp]
theorem setQueue_works (change : WorkqueueStruct Item → WorkqueueStruct Item) :
    (m.setQueue q change).works = m.works :=
  rfl

omit [DecidableEq Item] in
/-- Queues do not hold links. -/
@[simp]
theorem setQueue_next (change : WorkqueueStruct Item → WorkqueueStruct Item) :
    (m.setQueue q change).next = m.next :=
  rfl

omit [DecidableEq Item] in
/-- A list survives a change that keeps its two ends. -/
theorem setQueue_list (change : WorkqueueStruct Item → WorkqueueStruct Item)
    (ends : (change (m.queues q)).head = (m.queues q).head ∧
      (change (m.queues q)).tail = (m.queues q).tail) :
    (m.setQueue q change).list q = m.list q := by
  simp [list, ends.1, ends.2]

omit [DecidableEq Item] in
/-- A list that was written back. -/
@[simp]
theorem setList_list (l : LinkedQueue Item) : (m.setList q l).list q = l := by
  simp [list, setList]

omit [DecidableEq Item] in
/-- Lists do not hold work items. -/
@[simp]
theorem setList_works (l : LinkedQueue Item) : (m.setList q l).works = m.works :=
  rfl

omit [DecidableEq Item] in
/-- Writing a list back changes its two ends only. -/
@[simp]
theorem setList_queues_self (l : LinkedQueue Item) :
    (m.setList q l).queues q = { m.queues q with head := l.head, tail := l.tail } :=
  Function.update_self ..

end Access

end Memory

/-- Steps of `lcompat_workqueue_ensure_worker`. -/
inductive EnsurePc where
  | loadTask | casStarting | create | storeTask | clearStarting | clearFailed
  | spinStarting | spinTask | result
  deriving DecidableEq

/-- `lcompat_workqueue_ensure_worker`: the fast path, one creator, and the others waiting for
it. -/
def workqueueEnsureWorker (q : Queue) (env : Env) (m : Memory Queue Item) :
    EnsurePc → Memory Queue Item × Next EnsurePc Bool
  | .loadTask => (m, if (m.queues q).workerTask then .ret true else .goto .casStarting)
  | .casStarting =>
    if (m.queues q).workerStarting then (m, .goto .spinStarting)
    else (m.setQueue q fun wq => { wq with workerStarting := true }, .goto .create)
  | .create =>
    if env.created then
      (m.setQueue q fun wq => { wq with
        workersCreated := wq.workersCreated + 1
        workersUnstarted := wq.workersUnstarted + 1 }, .goto .storeTask)
    else (m, .goto .clearFailed)
  | .storeTask =>
    (m.setQueue q fun wq => { wq with workerTask := true }, .goto .clearStarting)
  | .clearStarting => (m.setQueue q fun wq => { wq with workerStarting := false }, .ret true)
  | .clearFailed => (m.setQueue q fun wq => { wq with workerStarting := false }, .ret false)
  | .spinStarting =>
    (m, if (m.queues q).workerStarting then .goto .spinTask else .goto .result)
  | .spinTask => (m, if (m.queues q).workerTask then .goto .result else .goto .spinStarting)
  | .result => (m, .ret (m.queues q).workerTask)

omit [DecidableEq Item] in
/-- Work items are not touched when a worker is made. -/
@[simp]
theorem workqueueEnsureWorker_works (q : Queue) (env : Env) (m : Memory Queue Item)
    (pc : EnsurePc) : (workqueueEnsureWorker q env m pc).1.works = m.works := by
  cases pc with
  | casStarting | create =>
    simp only [workqueueEnsureWorker]
    split <;> rfl
  | loadTask | storeTask | clearStarting | clearFailed | spinStarting | spinTask | result => rfl

/-- Steps of `lcompat_workqueue_wake`. -/
inductive WakePc where
  | loadTask | loadWaiting | unblock
  deriving DecidableEq

/-- `lcompat_workqueue_wake`. -/
def workqueueWake (q : Queue) (m : Memory Queue Item) :
    WakePc → Memory Queue Item × Next WakePc Unit
  | .loadTask => (m, if (m.queues q).workerTask then .goto .loadWaiting else .ret ())
  | .loadWaiting => (m, if (m.queues q).workerWaiting then .goto .unblock else .ret ())
  | .unblock => (m.setQueue q fun wq => { wq with unblocked := true }, .ret ())

omit [DecidableEq Item] in
/-- Work items are not touched when a worker is woken. -/
@[simp]
theorem workqueueWake_works (q : Queue) (m : Memory Queue Item) (pc : WakePc) :
    (workqueueWake q m pc).1.works = m.works := by
  cases pc <;> rfl

/-- Steps of `lcompat_queue_work`. The exchange carries the loaded state, whose `QUEUED` bit
is clear. -/
inductive QueuePc where
  | ensure (pc : EnsurePc)
  | load
  | cas (running : Bool)
  | append
  | wake (pc : WakePc)
  deriving DecidableEq

/-- The first step of `lcompat_queue_work`. -/
abbrev QueuePc.start : QueuePc := .ensure .loadTask

/-- `lcompat_queue_work`: set `QUEUED`, append under the lock, wake the worker. -/
def queueWork (q : Queue) (w : Item) (env : Env) (m : Memory Queue Item) :
    QueuePc → Memory Queue Item × Next QueuePc Bool
  | .ensure pc =>
    match workqueueEnsureWorker q env m pc with
    | (m, .goto pc) => (m, .goto (.ensure pc))
    | (m, .ret ready) => (m, if ready then .goto .load else .ret false)
  | .load =>
    (m, if (m.works w).state.queued then .ret false
      else .goto (.cas (m.works w).state.running))
  | .cas running =>
    if (m.works w).state = ⟨false, running⟩ then
      (m.setWork w fun work => { work with state := ⟨true, running⟩ }, .goto .append)
    else (m, .goto .load)
  | .append =>
    ((m.setList q ((m.list q).append w)).setWork w fun work => { work with wq := some q },
      .goto (.wake .loadTask))
  | .wake pc =>
    match workqueueWake q m pc with
    | (m, .goto pc) => (m, .goto (.wake pc))
    | (m, .ret _) => (m, .ret true)

/-- Steps of `lcompat_workqueue_worker`; after the pop they carry the popped item. The exchange
carries the loaded state, whose `QUEUED` bit is set. -/
inductive WorkerPc (Item : Type) where
  | pop
  | block
  | load (w : Item)
  | cas (w : Item) (running : Bool)
  | setRunning (w : Item)
  | call (w : Item)
  | inFunc (w : Item)
  | clearRunning (w : Item)
  | clearState (w : Item)
  | close (w : Item)
  deriving DecidableEq

/-- `lcompat_workqueue_pop_locked` with the rest of its locked section. -/
def workqueuePopLocked (q : Queue) (m : Memory Queue Item) :
    Memory Queue Item × WorkerPc Item :=
  match (m.list q).pop with
  | (_, none) => (m.setQueue q fun wq => { wq with workerWaiting := true }, .block)
  | (l, some w) =>
    ((m.setList q l).setQueue q fun wq =>
      { wq with workerWaiting := false, active := wq.active + 1 }, .load w)

/-- The closing locked section of one round of the worker. -/
def workqueueClose (q : Queue) (w : Item) (m : Memory Queue Item) : Memory Queue Item :=
  (m.setWork w fun work => if work.state.queued then work else { work with wq := none }).setQueue
    q fun wq => { wq with active := wq.active - 1 }

/-- `lcompat_workqueue_worker`: pop, turn `QUEUED` into `RUNNING`, execute, close. The work
function is entered in one step and left in another. -/
def workqueueWorker (q : Queue) (m : Memory Queue Item) :
    WorkerPc Item → Memory Queue Item × WorkerPc Item
  | .pop => workqueuePopLocked q m
  | .block =>
    if (m.queues q).unblocked then
      (m.setQueue q fun wq => { wq with unblocked := false }, .pop)
    else (m, .block)
  | .load w =>
    (m, if (m.works w).state.queued then .cas w (m.works w).state.running else .close w)
  | .cas w running =>
    if (m.works w).state = ⟨true, running⟩ then
      (m.setWork w fun work => { work with state := ⟨false, true⟩ }, .setRunning w)
    else (m, .load w)
  | .setRunning w =>
    (m.setWork w fun work => { work with running := work.running || work.delayedOwner },
      .call w)
  | .call w => (m, .inFunc w)
  | .inFunc w => (m, .clearRunning w)
  | .clearRunning w =>
    (m.setWork w fun work => { work with running := work.running && !work.delayedOwner },
      .clearState w)
  | .clearState w =>
    (m.setWork w fun work => { work with state := { work.state with running := false } },
      .close w)
  | .close w => (workqueueClose q w m, .pop)

/-- Steps of `lcompat_cancel_work_sync`. -/
inductive CancelPc (Queue : Type) where
  | loadWq
  | remove (q : Queue)
  | clearQueued
  | spin (canceled : Bool)
  deriving DecidableEq

section Cancel

variable [Fintype Item]

/-- `lcompat_workqueue_remove_locked`. The walk takes at most one step for each item there
is; it does not end when the links of the queue run in a cycle. -/
def workqueueRemoveLocked (q : Queue) (w : Item) (m : Memory Queue Item) :
    Option (Memory Queue Item × Bool) :=
  ((m.list q).removeFrom w (Fintype.card Item) none (m.list q).head).map fun
    | (l, true) => ((m.setList q l).setWork w fun work => { work with wq := none }, true)
    | (_, false) => (m, false)

/-- `lcompat_cancel_work_sync`: take the item out of its queue, then wait while it is exactly
`RUNNING`. -/
def cancelWorkSync (w : Item) (m : Memory Queue Item) :
    CancelPc Queue → Option (Memory Queue Item × Next (CancelPc Queue) Bool)
  | .loadWq => some (m, match (m.works w).wq with
    | some q => .goto (.remove q)
    | none => .goto (.spin false))
  | .remove q => (workqueueRemoveLocked q w m).map fun
    | (m, true) => (m, .goto .clearQueued)
    | (m, false) => (m, .goto (.spin false))
  | .clearQueued =>
    some (m.setWork w fun work => { work with state := { work.state with queued := false } },
      .goto (.spin true))
  | .spin canceled =>
    some (m, if (m.works w).state = ⟨false, true⟩ then .goto (.spin canceled)
      else .ret canceled)

end Cancel

/-- Steps of `lcompat_queue_delayed_work`. -/
inductive QueueDelayedPc where
  | queueNow (pc : QueuePc)
  | casState | storeWq | storeExpires | storeActive | incGeneration | create
  | undoActive | undoState | undoGeneration
  deriving DecidableEq

/-- The first step of `lcompat_queue_delayed_work` for a delay. -/
def QueueDelayedPc.start (delay : UInt64) : QueueDelayedPc :=
  if delay = 0 then .queueNow .start else .casState

/-- `lcompat_queue_delayed_work`: a zero delay queues at once; otherwise claim the idle item,
arm the delay and create the timer task, undoing all of it when there is no task. -/
def queueDelayedWork (q : Queue) (w : Item) (delay : UInt64) (env : Env)
    (m : Memory Queue Item) : QueueDelayedPc → Memory Queue Item × Next QueueDelayedPc Bool
  | .queueNow pc =>
    match queueWork q w env m pc with
    | (m, .goto pc) => (m, .goto (.queueNow pc))
    | (m, .ret accepted) => (m, .ret accepted)
  | .casState =>
    if (m.works w).state = ⟨false, false⟩ then
      (m.setWork w fun work => { work with state := ⟨true, false⟩ }, .goto .storeWq)
    else (m, .ret false)
  | .storeWq => (m.setWork w fun work => { work with wq := some q }, .goto .storeExpires)
  | .storeExpires =>
    (m.setWork w fun work => { work with expires := env.now + delay }, .goto .storeActive)
  | .storeActive => (m.setWork w fun work => { work with active := true }, .goto .incGeneration)
  | .incGeneration =>
    (m.setWork w fun work => { work with generation := work.generation + 1 }, .goto .create)
  | .create =>
    if env.created then
      (m.setWork w fun work => { work with timersUnstarted := work.timersUnstarted + 1 },
        .ret true)
    else (m, .goto .undoActive)
  | .undoActive => (m.setWork w fun work => { work with active := false }, .goto .undoState)
  | .undoState =>
    (m.setWork w fun work => { work with state := ⟨false, false⟩ }, .goto .undoGeneration)
  | .undoGeneration =>
    (m.setWork w fun work => { work with generation := work.generation + 1 }, .ret false)

/-- Local variables of `lcompat_delayed_work_worker`. -/
structure TimerVars (Queue : Type) where
  /-- `generation`. -/
  generation : UInt32
  /-- `expires`. -/
  expires : UInt64
  /-- `wq`, null or a queue. -/
  wq : Option Queue
  deriving DecidableEq

/-- Steps of `lcompat_delayed_work_worker`. -/
inductive TimerPc (Queue : Type) where
  | loadGeneration
  | loadExpires (generation : UInt32)
  | loadWq (generation : UInt32) (expires : UInt64)
  | loopActive (vars : TimerVars Queue)
  | loopGeneration (vars : TimerVars Queue)
  | loopTime (vars : TimerVars Queue)
  | checkActive (vars : TimerVars Queue)
  | checkGeneration (vars : TimerVars Queue)
  | reset
  | clearActive (vars : TimerVars Queue)
  | casState (vars : TimerVars Queue)
  | queue (q : Queue) (pc : QueuePc)
  deriving DecidableEq

/-- `time_before` on jiffies: the difference is negative as a signed word. -/
def timeBefore (a b : UInt64) : Bool := 2 ^ 63 ≤ a - b

/-- `lcompat_delayed_work_worker`: wait for the deadline while the delay is the current one,
then hand the item over to its queue, or to the system queue. -/
def delayedWorkWorker (systemWq : Queue) (w : Item) (env : Env) (m : Memory Queue Item) :
    TimerPc Queue → Memory Queue Item × Next (TimerPc Queue) Unit
  | .loadGeneration => (m, .goto (.loadExpires (m.works w).generation))
  | .loadExpires generation => (m, .goto (.loadWq generation (m.works w).expires))
  | .loadWq generation expires =>
    (m, .goto (.loopActive ⟨generation, expires, (m.works w).wq⟩))
  | .loopActive vars =>
    (m, if (m.works w).active then .goto (.loopGeneration vars)
      else .goto (.checkActive vars))
  | .loopGeneration vars =>
    (m, if (m.works w).generation = vars.generation then .goto (.loopTime vars)
      else .goto (.checkActive vars))
  | .loopTime vars =>
    (m, if timeBefore env.now vars.expires then .goto (.loopActive vars)
      else .goto (.checkActive vars))
  | .checkActive vars =>
    (m, if (m.works w).active then .goto (.checkGeneration vars) else .goto .reset)
  | .checkGeneration vars =>
    (m, if (m.works w).generation = vars.generation then .goto (.clearActive vars)
      else .goto .reset)
  | .reset => (m.setWork w fun work => { work with state := ⟨false, false⟩ }, .ret ())
  | .clearActive vars =>
    (m.setWork w fun work => { work with active := false }, .goto (.casState vars))
  | .casState vars =>
    if (m.works w).state = ⟨true, false⟩ then
      (m.setWork w fun work => { work with state := ⟨false, false⟩ },
        .goto (.queue (vars.wq.getD systemWq) .start))
    else (m, .ret ())
  | .queue q pc =>
    match queueWork q w env m pc with
    | (m, .goto pc) => (m, .goto (.queue q pc))
    | (m, .ret _) => (m, .ret ())

/-- Steps of `lcompat_cancel_delayed_work_sync`; they carry the value to be returned once it
is known. -/
inductive CancelDelayedPc (Queue : Type) where
  | loadActive | loadState | loadRunning
  | clearActive (pending : Bool)
  | incGeneration (pending : Bool)
  | cancel (pending : Bool) (pc : CancelPc Queue)
  | spinRunning (pending : Bool)
  deriving DecidableEq

/-- `lcompat_cancel_delayed_work_sync`: revoke the delay, cancel the queued work, then wait
while the function is marked running. -/
def cancelDelayedWorkSync [Fintype Item] (w : Item) (m : Memory Queue Item) :
    CancelDelayedPc Queue → Option (Memory Queue Item × Next (CancelDelayedPc Queue) Bool)
  | .loadActive =>
    some (m, if (m.works w).active then .goto (.clearActive true) else .goto .loadState)
  | .loadState =>
    some (m, if (m.works w).state = ⟨true, false⟩ then .goto (.clearActive true)
      else .goto .loadRunning)
  | .loadRunning => some (m, .goto (.clearActive (m.works w).running))
  | .clearActive pending =>
    some (m.setWork w fun work => { work with active := false }, .goto (.incGeneration pending))
  | .incGeneration pending =>
    some (m.setWork w fun work => { work with generation := work.generation + 1 },
      .goto (.cancel pending .loadWq))
  | .cancel pending pc =>
    (cancelWorkSync w m pc).map fun
    | (m, .goto pc) => (m, .goto (.cancel pending pc))
    | (m, .ret _) => (m, .goto (.spinRunning pending))
  | .spinRunning pending =>
    some (m, if (m.works w).running then .goto (.spinRunning pending) else .ret pending)

end Lcompat.Workqueue

import Lcompat.Workqueue.Model

/-!
# Tasks of one queue

The interleavings of any number of tasks that call `lcompat_queue_work` and
`lcompat_cancel_work_sync` on the items of one queue, with the worker tasks created for that
queue. A call made by a work function is a call of another task here: the worker is inside
the function for as long as that call takes.
-/

namespace Lcompat.Workqueue

open Lcompat.Logic

/-- What a task is doing. -/
inductive Task (Item : Type) where
  /-- Outside the functions of the queue. -/
  | idle
  /-- In `lcompat_queue_work`. -/
  | queueing (w : Item) (pc : QueuePc)
  /-- In `lcompat_cancel_work_sync`. -/
  | cancelling (w : Item) (pc : CancelPc Unit)
  /-- A worker of the queue. -/
  | worker (pc : WorkerPc Item)
  deriving DecidableEq

/-- What a task does next. -/
inductive Choice (Item : Type) where
  /-- Call `lcompat_queue_work`. -/
  | queue (w : Item)
  /-- Call `lcompat_cancel_work_sync`. -/
  | cancel (w : Item)
  /-- Begin as a worker task that was created. -/
  | begin
  /-- Take the next step of the function it is in. -/
  | go (env : Env)
  deriving DecidableEq

variable {Item : Type} [DecidableEq Item] [Fintype Item]

/-- Memory with one queue. -/
abbrev QueueMemory (Item : Type) := Memory Unit Item

/-- The next step of a task. -/
def exec (m : QueueMemory Item) (task : Task Item) (choice : Choice Item) :
    Option (QueueMemory Item × Task Item) :=
  match task, choice with
  | .idle, .queue w => some (m, .queueing w .start)
  | .idle, .cancel w => some (m, .cancelling w .loadWq)
  | .idle, .begin =>
    if 0 < (m.queues ()).workersUnstarted then
      some (m.setQueue () fun wq => { wq with workersUnstarted := wq.workersUnstarted - 1 },
        .worker .pop)
    else none
  | .queueing w pc, .go env =>
    match queueWork () w env m pc with
    | (m, .goto pc) => some (m, .queueing w pc)
    | (m, .ret _) => some (m, .idle)
  | .cancelling w pc, .go _ =>
    (cancelWorkSync w m pc).map fun
    | (m, .goto pc) => (m, .cancelling w pc)
    | (m, .ret _) => (m, .idle)
  | .worker pc, .go _ =>
    match workqueueWorker () m pc with
    | (m, pc) => some (m, .worker pc)
  | _, _ => none

variable {Id : Type} [DecidableEq Id]

/-- One queue, its items and the tasks that use them. -/
abbrev Tasks (Id Item : Type) := Pool Id (QueueMemory Item) (Task Item)

/-- Every interleaving of the steps of the tasks from the given initial pools. -/
def tasks (init : Tasks Id Item → Prop) : System (Tasks Id Item) (Id × Choice Item) :=
  Pool.system exec init

/-- A queue that has just been allocated, items that have just been initialised, and nobody
inside a function of the queue. -/
structure Fresh (p : Tasks Id Item) : Prop where
  /-- The queue is new. -/
  queue : p.shared.queues () = .alloc
  /-- The items are new, delayed or not. -/
  items : ∀ w, p.shared.works w = .init (p.shared.works w).delayedOwner
  /-- No call is under way. -/
  idle : ∀ t, p.threads t = .idle

end Lcompat.Workqueue

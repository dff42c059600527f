import Lcompat.Workqueue.Staff

/-!
# Flushing a queue

`lcompat_flush_workqueue` looks at the list and at the count of active workers in one locked
section and returns when there is neither an item nor an active worker. The count is that of the
workers between the pop of an item and their closing section, so a worker that has taken an item
out of the list is seen until it is done with it. The results are about any number of workers and
clients; what happens during a flush is noted by who pops an item, who returns from its function and
who takes it out of the list to cancel it.
-/

namespace Lcompat.Workqueue

open Lcompat.Logic

/-- Steps of `lcompat_flush_workqueue`. -/
inductive FlushPc where
  /-- The locked section. -/
  | look
  /-- `schedule`. -/
  | yield
  deriving DecidableEq

/-- `lcompat_flush_workqueue`. -/
def flushWorkqueue {Queue Item : Type} (q : Queue) (m : Memory Queue Item) :
    FlushPc → Next FlushPc Unit
  | .look => if (m.queues q).head.isNone ∧ (m.queues q).active = 0 then .ret () else .goto .yield
  | .yield => .goto .look

/-- What a task of a queue that is flushed is doing. -/
inductive FlushTask (Item : Type) where
  /-- In one of the other functions, or outside. -/
  | plain (task : Task Item)
  /-- In `lcompat_flush_workqueue`. -/
  | flushing (pc : FlushPc)
  deriving DecidableEq

/-- What a task of a queue that is flushed does next. -/
inductive FlushChoice (Item : Type) where
  /-- Call `lcompat_flush_workqueue`. -/
  | flush
  /-- Anything else. -/
  | other (choice : Choice Item)
  deriving DecidableEq

/-- What a task is doing in the other functions. -/
@[simp]
def FlushTask.rest {Item : Type} : FlushTask Item → Task Item
  | .plain task => task
  | .flushing _ => .idle

variable {Item : Type} [DecidableEq Item] [Fintype Item]

/-- The next step of a task of a queue that is flushed. -/
def flushExec (m : QueueMemory Item) (task : FlushTask Item) (choice : FlushChoice Item) :
    Option (QueueMemory Item × FlushTask Item) :=
  match task, choice with
  | .plain .idle, .flush => some (m, .flushing .look)
  | .plain task, .other choice => (exec m task choice).map fun next => (next.1, .plain next.2)
  | .flushing pc, .other (.go _) =>
    match flushWorkqueue () m pc with
    | .goto pc => some (m, .flushing pc)
    | .ret _ => some (m, .plain .idle)
  | _, _ => none

/-- What is noted of the items of a queue. -/
inductive Note (Item : Type) where
  /-- A worker popped the item. -/
  | popped (w : Item)
  /-- A worker returned from the function of the item. -/
  | returned (w : Item)
  /-- `lcompat_cancel_work_sync` took the item out of the list. -/
  | removed (w : Item)
  deriving DecidableEq

/-- What is noted of a task that moves. -/
def noted {Item : Type} : Task Item → Task Item → List (Note Item)
  | .worker .pop, .worker (.load w) => [.popped w]
  | .worker (.inFunc w), .worker (.clearRunning _) => [.returned w]
  | .cancelling w (.remove _), .cancelling _ .clearQueued => [.removed w]
  | _, _ => []

/-- One queue, its items and the tasks that use and flush it. -/
abbrev FlushTasks (Id Item : Type) := Pool Id (QueueMemory Item) (FlushTask Item)

variable {Id : Type}

/-- The tasks as far as they are in the other functions. -/
def apartFromFlushes {Item : Type} (p : FlushTasks Id Item) : Tasks Id Item :=
  ⟨p.shared, fun t => (p.threads t).rest⟩

/-- What is noted of a step. -/
def observe (p : FlushTasks Id Item) (a : Id × FlushChoice Item) : List (Id × Note Item) :=
  match flushExec p.shared (p.threads a.1) a.2 with
  | some (_, next) => (noted (p.threads a.1).rest next.rest).map fun note => (a.1, note)
  | none => []

variable [DecidableEq Id]

/-- Every interleaving of the tasks of a queue that is flushed, with any number of workers. -/
def flushes (Id Item : Type) [DecidableEq Id] [DecidableEq Item] [Fintype Item] :
    System (FlushTasks Id Item) (Id × FlushChoice Item) :=
  Pool.system flushExec fun p => Staffed (apartFromFlushes p)

section Notes

variable {m m' : QueueMemory Item} {l l' : Ledger Item} {w : Item}

omit [Fintype Item] in
/-- An item leaves the list with a cancel or a worker. -/
theorem Ledger.Step.leaves {h h' : Hand Item} (stepped : Ledger.Step l h l' h')
    (member : w ∈ l.nodes) :
    w ∈ l'.nodes ∨ h = .free ∧ h' = .clearing w ∨ h = .serving ∧ h' = .popped w := by
  cases stepped with
  | append v => exact .inl (List.mem_append_left _ member)
  | remove v =>
    by_cases same : w = v
    · subst same
      exact .inr (.inl ⟨rfl, rfl⟩)
    · exact .inl ((List.mem_erase_of_ne same).mpr member)
  | pop v rest first =>
    rw [first, List.mem_cons] at member
    obtain rfl | later := member
    · exact .inr (.inr ⟨rfl, rfl⟩)
    · exact .inl later
  | close v => exact .inl (by split <;> exact member)
  | keep | ask | refuse | claim | clear | arm | link | disarm | fire | accept | pass | finish =>
    exact .inl member

/-- A cancel that gets an item out of the list is noted. -/
theorem noted_removed {task task' : Task Item} {choice : Choice Item}
    (ran : exec m task choice = some (m', task')) (free : task.hand = .free)
    (clearing : task'.hand = .clearing w) : noted task task' = [.removed w] := by
  obtain rfl : task' = .cancelling w .clearQueued := by
    cases task' with
    | cancelling v pc => cases pc <;> simp_all
    | queueing v pc | worker pc => cases pc <;> simp at clearing
    | idle => simp at clearing
  cases task with
  | idle => cases choice <;> simp [exec] at ran
  | worker pc => cases pc <;> simp at free
  | queueing v pc =>
    cases choice with
    | go env =>
      rcases went : queueWork () v env m pc with ⟨m'', pc' | accepted⟩ <;>
        simp [exec, went] at ran
    | queue _ | cancel _ | begin => simp [exec] at ran
  | cancelling v pc =>
    cases choice with
    | go env =>
      obtain ⟨⟨m'', next⟩, went, same⟩ := Option.map_eq_some_iff.mp ran
      cases next with
      | ret canceled => simp at same
      | goto pc' =>
        obtain ⟨rfl, rfl, rfl⟩ : m'' = m' ∧ v = w ∧ pc' = .clearQueued := by simpa using same
        cases pc with
        | remove q => rfl
        | clearQueued => simp at free
        | loadWq =>
          cases here : (m.works v).wq <;> simp [cancelWorkSync, here] at went
        | spin canceled =>
          by_cases running : (m.works v).state = ⟨false, true⟩ <;>
            simp [cancelWorkSync, running] at went
    | queue _ | cancel _ | begin => simp [exec] at ran

/-- The task is a worker that has the item, and the function of the item has not returned. -/
def Task.Has (w : Item) : Task Item → Prop
  | .worker pc => pc.pending w
  | .idle | .queueing _ _ | .cancelling _ _ => False

/-- A worker that gets an item from the list is noted. -/
theorem noted_popped {task task' : Task Item} {choice : Choice Item}
    (ran : exec m task choice = some (m', task')) (serving : task.hand = .serving)
    (popped : task'.hand = .popped w) : noted task task' = [.popped w] ∧ task'.Has w := by
  cases task with
  | idle => simp at serving
  | queueing v pc | cancelling v pc => cases pc <;> simp at serving
  | worker pc =>
    cases choice with
    | go env =>
      obtain ⟨rfl, rfl⟩ : _ = m' ∧ _ = task' := by simpa [exec] using ran
      cases pc with
      | pop =>
        rcases first : (m.list ()).pop with ⟨list, _ | v⟩
        · simp [workqueueWorker, workqueuePopLocked, first] at popped
        · obtain rfl : v = w := by
            simpa [workqueueWorker, workqueuePopLocked, first] using popped
          simp [workqueueWorker, workqueuePopLocked, first, noted, Task.Has, WorkerPc.pending]
      | block =>
        cases pending : (m.queues ()).unblocked <;>
          simp [workqueueWorker, pending] at popped
      | load | cas | setRunning | call | inFunc | clearRunning | clearState | close =>
        simp at serving
    | queue _ | cancel _ | begin => simp [exec] at ran

/-- A worker that has a `QUEUED` item, or is executing it, has it until the return from its function
is noted. -/
theorem Task.Has.step {task task' : Task Item} {choice : Choice Item} (has : task.Has w)
    (ran : exec m task choice = some (m', task'))
    (queued : task.hand = .popped w → (m.works w).state.queued = true) :
    task'.Has w ∨ noted task task' = [.returned w] := by
  cases task with
  | idle | queueing v pc | cancelling v pc => exact absurd has id
  | worker pc =>
    cases choice with
    | go env =>
      obtain ⟨rfl, rfl⟩ : _ = m' ∧ _ = task' := by simpa [exec] using ran
      cases pc with
      | load v =>
        obtain rfl : v = w := has
        exact .inl (by simp [workqueueWorker, queued rfl, Task.Has, WorkerPc.pending])
      | cas v running =>
        obtain rfl : v = w := has
        by_cases same : (m.works v).state = ⟨true, running⟩ <;>
          exact .inl (by simp [workqueueWorker, same, Task.Has, WorkerPc.pending])
      | setRunning v | call v => exact .inl has
      | inFunc v =>
        obtain rfl : v = w := has
        exact .inr rfl
      | pop | block | clearRunning v | clearState v | close v => exact absurd has id
    | queue _ | cancel _ | begin => simp [exec] at ran

omit [DecidableEq Item] [Fintype Item] in
/-- A worker that has an item is active. -/
theorem Task.Has.inside {task : Task Item} (has : task.Has w) : task.inside = true := by
  cases task with
  | worker pc =>
    cases pc with
    | pop | block => exact absurd has id
    | load | cas | setRunning | call | inFunc | clearRunning | clearState | close => rfl
  | idle | queueing v pc | cancelling v pc => exact absurd has id

omit [DecidableEq Item] [Fintype Item] in
/-- A worker that has an item has popped it or is executing it. -/
theorem Task.Has.hand {task : Task Item} (has : task.Has w) :
    task.hand = .popped w ∨ task.hand = .running w := by
  cases task with
  | worker pc =>
    cases pc with
    | load v | cas v running =>
      obtain rfl : v = w := has
      exact .inl rfl
    | setRunning v | call v | inFunc v =>
      obtain rfl : v = w := has
      exact .inr rfl
    | pop | block | clearRunning | clearState | close => exact absurd has id
  | idle | queueing v pc | cancelling v pc => exact absurd has id

end Notes

/-- What has become of an item that was in the list when the notes began: it still is, it was taken
out of the list to cancel it, or a worker popped it and has it or has returned from its function. -/
def Settling (w : Item) (p : Tasks Id Item) (l : Ledger Item) (notes : List (Id × Note Item)) :
    Prop :=
  w ∈ l.nodes ∨ (∃ u, (u, .removed w) ∈ notes) ∨
    (∃ u, (u, .popped w) ∈ notes ∧ (p.threads u).Has w) ∨
      ∃ u, [(u, .returned w), (u, .popped w)].Sublist notes

variable {p q : Tasks Id Item} {l : Ledger Item} {a : Id × Choice Item} {w : Item}
  {notes : List (Id × Note Item)}

/-- A worker keeps an item until the return from its function is noted. -/
theorem Staff.has_step (staff : Staff p l) (stepped : Pool.step exec p a = some q) {u : Id}
    (has : (p.threads u).Has w) :
    (q.threads u).Has w ∨
      u = a.1 ∧ noted (p.threads a.1) (q.threads a.1) = [.returned w] := by
  obtain ⟨shared, next, ran, rfl⟩ := Pool.step_eq_some.mp stepped
  by_cases same : u = a.1
  · subst same
    have queued : (p.threads a.1).hand = .popped w → (p.shared.works w).state.queued = true := by
      intro popped
      rw [staff.models.state w]
      exact (staff.ledger.held a.1 w (by rw [popped]; rfl)).1
    simpa using has.step ran queued
  · exact .inl (by simpa [Function.update_of_ne same] using has)

/-- What becomes of an item is noted. -/
theorem Settling.step (staff : Staff p l) (settling : Settling w p l notes)
    (stepped : Pool.step exec p a = some q) : ∃ l', Staff q l' ∧ Settling w q l'
      ((noted (p.threads a.1) (q.threads a.1)).map (fun note => (a.1, note)) ++ notes) := by
  obtain ⟨l', staff', moved⟩ := staff.step stepped
  refine ⟨l', staff', ?_⟩
  obtain listed | ⟨u, removed⟩ | ⟨u, popped, has⟩ | ⟨u, returned⟩ := settling
  · obtain moved | ⟨rfl, -⟩ := moved
    · obtain ⟨shared, next, ran, rfl⟩ := Pool.step_eq_some.mp stepped
      obtain still | ⟨free, clearing⟩ | ⟨serving, popped⟩ := moved.leaves listed
      · exact .inl still
      · have seen := noted_removed ran free (by simpa using clearing)
        exact .inr (.inl ⟨a.1, by simp [seen]⟩)
      · obtain ⟨seen, has⟩ := noted_popped ran serving (by simpa using popped)
        exact .inr (.inr (.inl ⟨a.1, by simp [seen], by simpa using has⟩))
    · exact .inl listed
  · exact .inr (.inl ⟨u, List.mem_append_right _ removed⟩)
  · obtain still | ⟨rfl, seen⟩ := staff.has_step stepped has
    · exact .inr (.inr (.inl ⟨u, List.mem_append_right _ popped, still⟩))
    · refine .inr (.inr (.inr ⟨a.1, ?_⟩))
      rw [seen]
      exact (List.singleton_sublist.mpr popped).cons_cons _
  · exact .inr (.inr (.inr ⟨u, returned.trans (List.sublist_append_right _ _)⟩))

/-- Steps while a task is in `lcompat_flush_workqueue`. -/
def Flushing (t : Id) (s : FlushTasks Id Item × List (Id × Note Item))
    (_ : Id × FlushChoice Item) : Prop :=
  ∃ pc, s.1.threads t = .flushing pc

instance (task : FlushTask Item) : Decidable (∃ pc, task = .flushing pc) :=
  match task with
  | .flushing pc => .isTrue ⟨pc, rfl⟩
  | .plain _ => .isFalse (by rintro ⟨pc, ⟨⟩⟩)

instance (t : Id) (s : FlushTasks Id Item × List (Id × Note Item)) (a : Id × FlushChoice Item) :
    Decidable (Flushing t s a) :=
  inferInstanceAs (Decidable (∃ pc, s.1.threads t = .flushing pc))

/-- One call of `lcompat_flush_workqueue`: the state in which it is made, the one in which it is
about to take its last step, the one in which it has returned, and what was noted meanwhile. -/
structure FlushCall (t : Id) (before last after : FlushTasks Id Item)
    (notes : List (Id × Note Item)) : Prop where
  /-- The call is made in a run. -/
  reach : (flushes Id Item).Reachable before
  /-- The call and its steps but the last. -/
  called : ∃ begun, Pool.step flushExec before (t, .flush) = some begun ∧
    ((flushes Id Item).record observe).Path (Flushing t) (begun, []) (last, notes)
  /-- The last step. -/
  returned : (∃ pc, last.threads t = .flushing pc) ∧ ∃ env,
    Pool.step flushExec last (t, .other (.go env)) = some after ∧ after.threads t = .plain .idle

/-- A flush returns when it finds neither an item nor an active worker. -/
theorem FlushCall.idle {t : Id} {before last after : FlushTasks Id Item}
    {notes : List (Id × Note Item)} (call : FlushCall t before last after notes) :
    (last.shared.queues ()).head = none ∧ (last.shared.queues ()).active = 0 := by
  obtain ⟨⟨pc, flushing⟩, env, stepped, idle⟩ := call.returned
  obtain ⟨shared, next, ran, rfl⟩ := Pool.step_eq_some.mp stepped
  rw [flushing] at ran
  obtain rfl : next = .plain .idle := by simpa using idle
  cases pc with
  | look =>
    by_cases done : (last.shared.queues ()).head.isNone ∧ (last.shared.queues ()).active = 0
    · exact ⟨Option.isNone_iff_eq_none.mp done.1, done.2⟩
    · simp only [flushExec, flushWorkqueue, if_neg done, Option.some.injEq, Prod.mk.injEq] at ran
      exact absurd ran.2 (by simp)
  | yield => simp [flushExec, flushWorkqueue] at ran

end Lcompat.Workqueue

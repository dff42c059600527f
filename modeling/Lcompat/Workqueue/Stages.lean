import Lcompat.Workqueue.Model

/-!
# The stages of one delayed work item

The interleavings of one client that calls `lcompat_queue_delayed_work` on one delayed work
item, the timer tasks that these calls create, and the worker of the queue. The arming call
stores `work->wq` without the lock of the queue, so the closing section of the worker is taken
apart here: it loads the state word, stores null and unlocks in three steps, and only the
steps that take the lock of the queue wait for it.

The item goes through stages. Each stage belongs to the task that moves the item on, and the
stages count the calls that were granted, the appends and the executions against each other.
-/

set_option linter.unusedSectionVars false

namespace Lcompat.Workqueue

open Lcompat.Logic

/-- What a task is doing. -/
inductive Racer (Queue Item : Type) where
  /-- The client, outside the function. -/
  | client
  /-- The client, in `lcompat_queue_delayed_work`. -/
  | queueing (delay : UInt64) (pc : QueueDelayedPc)
  /-- The worker of the queue, which has not entered its closing section. -/
  | worker (pc : WorkerPc Item)
  /-- The worker, about to store null in `wq` of an item it found not `QUEUED`. -/
  | clearWq (v : Item)
  /-- The worker, about to count `active` down and unlock. -/
  | unlock
  /-- A timer task. -/
  | timer (pc : TimerPc Queue)
  /-- Not begun yet, or returned. -/
  | idle
  deriving DecidableEq

/-- What a task does next. -/
inductive Turn where
  /-- Call `lcompat_queue_delayed_work`. -/
  | call (delay : UInt64)
  /-- Begin as a timer task that was created. -/
  | begin
  /-- Take the next step of the function it is in. -/
  | go (env : Env)
  deriving DecidableEq

/-- The memory, and whether the worker is inside its closing section. -/
structure LockedMemory (Queue Item : Type) where
  /-- The memory. -/
  memory : Memory Queue Item
  /-- The lock of the queue is held across steps. -/
  locked : Bool

/-- What an observer notes about the item. -/
inductive Sign (Queue : Type) where
  /-- A call of `lcompat_queue_delayed_work` returned. -/
  | answered (accepted : Bool)
  /-- The item was appended to a queue. -/
  | appended (q : Queue)
  /-- The work function returned. -/
  | returned
  deriving DecidableEq

variable {Queue Item : Type} [DecidableEq Queue] [DecidableEq Item]

/-- The next step takes the lock of the queue. -/
def Racer.locks (q : Queue) : Racer Queue Item → Bool
  | .worker .pop | .worker (.close _) | .queueing _ (.queueNow .append) => true
  | .timer (.queue q' .append) => q' = q
  | _ => false

/-- The next step of a task that need not wait, for a work item, its queue and the system
queue. -/
def raceStep (q systemWq : Queue) (w : Item) (s : LockedMemory Queue Item)
    (racer : Racer Queue Item) (turn : Turn) :
    Option (LockedMemory Queue Item × Racer Queue Item) :=
  match racer, turn with
  | .client, .call delay => some (s, .queueing delay (.start delay))
  | .queueing delay pc, .go env =>
    match queueDelayedWork q w delay env s.memory pc with
    | (m, .goto pc) => some ({ s with memory := m }, .queueing delay pc)
    | (m, .ret _) => some ({ s with memory := m }, .client)
  | .worker (.close v), .go _ =>
    some ({ s with locked := true },
      if (s.memory.works v).state.queued then .unlock else .clearWq v)
  | .worker pc, .go _ =>
    match workqueueWorker q s.memory pc with
    | (m, pc) => some ({ s with memory := m }, .worker pc)
  | .clearWq v, .go _ =>
    some ({ s with memory := s.memory.setWork v fun work => { work with wq := none } }, .unlock)
  | .unlock, .go _ =>
    some (⟨s.memory.setQueue q fun wq => { wq with active := wq.active - 1 }, false⟩,
      .worker .pop)
  | .timer pc, .go env =>
    match delayedWorkWorker systemWq w env s.memory pc with
    | (m, .goto pc) => some ({ s with memory := m }, .timer pc)
    | (m, .ret _) => some ({ s with memory := m }, .idle)
  | .idle, .begin =>
    if 0 < (s.memory.works w).timersUnstarted then
      some ({ s with memory := s.memory.setWork w fun work =>
        { work with timersUnstarted := work.timersUnstarted - 1 } }, .timer .loadGeneration)
    else none
  | _, _ => none

/-- With nobody between, the steps of the closing section are `workqueueClose`. -/
theorem workqueueClose_eq (q systemWq : Queue) (w v : Item) (s : LockedMemory Queue Item)
    (env : Env) :
    (raceStep q systemWq w s (.worker (.close v)) (.go env)).bind (fun found =>
      (if found.2 = .unlock then some found
        else raceStep q systemWq w found.1 found.2 (.go env)).bind fun cleared =>
          raceStep q systemWq w cleared.1 cleared.2 (.go env)) =
      some (⟨workqueueClose q v s.memory, false⟩, .worker .pop) := by
  cases queued : (s.memory.works v).state.queued
  · simp [raceStep, workqueueClose, Memory.setWork, queued]
  · simp [raceStep, workqueueClose, Memory.setWork, queued]

/-- The next step of a task, which waits for the lock of the queue. -/
def raceExec (q systemWq : Queue) (w : Item) (s : LockedMemory Queue Item)
    (racer : Racer Queue Item) (turn : Turn) :
    Option (LockedMemory Queue Item × Racer Queue Item) :=
  if s.locked = true ∧ racer.locks q = true then none else raceStep q systemWq w s racer turn

/-- What the next step of a task does that is noted. -/
def Racer.signs (q : Queue) (w : Item) (m : Memory Queue Item) :
    Racer Queue Item → Turn → List (Sign Queue)
  | .queueing _ (.queueNow .append), .go _ => [.appended q]
  | .queueing delay pc, .go env =>
    match queueDelayedWork q w delay env m pc with
    | (_, .ret accepted) => [.answered accepted]
    | (_, .goto _) => []
  | .timer (.queue q' .append), .go _ => [.appended q']
  | .worker (.inFunc v), .go _ => if v = w then [.returned] else []
  | _, _ => []

variable {Id : Type} [DecidableEq Id]

/-- The client, the worker, the timer tasks and the memory they share. -/
abbrev Race (Id Queue Item : Type) := Pool Id (LockedMemory Queue Item) (Racer Queue Item)

/-- At first the worker is published and looks for work, the client is outside, no timer task
has begun, and the item is new; the list of the queue holds any other items. -/
structure Race.Begun (q : Queue) (w : Item) (p : Race Id Queue Item) : Prop where
  /-- The worker is published. -/
  workerTask : (p.shared.memory.queues q).workerTask = true
  /-- The item is new. -/
  item : p.shared.memory.works w = .init true
  /-- The item is not in the list. -/
  others : ∃ nodes, (p.shared.memory.list q).Repr nodes ∧ w ∉ nodes
  /-- The lock is free. -/
  unlocked : p.shared.locked = false
  /-- One client, one worker, and tasks that can become timer tasks. -/
  roles : ∃ client worker, p.threads client = .client ∧ p.threads worker = .worker .pop ∧
    ∀ t, t ≠ client → t ≠ worker → p.threads t = .idle

/-- Every interleaving of the tasks, with what was noted. -/
def races (q systemWq : Queue) (w : Item) :
    System (Race Id Queue Item × List (Sign Queue)) (Id × Turn) :=
  (Pool.system (raceExec q systemWq w) (Race.Begun q w)).record fun p a =>
    (p.threads a.1).signs q w p.shared.memory a.2

/-- A call is issued after every execution that the calls before it asked for has returned. -/
def Issued (s : Race Id Queue Item × List (Sign Queue)) : Id × Turn → Prop
  | (_, .call _) => s.2.count (.answered true) = s.2.count .returned
  | _ => True

/-- The task has stored the queue for its delay, or is a timer task that has not loaded it. -/
def Racer.arms : Racer Queue Item → Bool
  | .queueing _ .storeExpires | .queueing _ .storeActive | .queueing _ .incGeneration
  | .queueing _ .create => true
  | .timer .loadGeneration | .timer (.loadExpires _) | .timer (.loadWq _ _) => true
  | _ => false

/-- `wq` of the item holds the queue that a delay is to end on. -/
def Race.Armed (w : Item) (p : Race Id Queue Item) : Prop :=
  0 < (p.shared.memory.works w).timersUnstarted ∨ ∃ t, (p.threads t).arms = true

/-- The condition on a step: the worker does not store null in `wq` of the item while a delay
relies on it, unless null stands for the queue. -/
def Spares (q systemWq : Queue) (w : Item) (s : Race Id Queue Item × List (Sign Queue))
    (a : Id × Turn) : Prop :=
  s.1.threads a.1 = .clearWq w → systemWq = q ∨ ¬s.1.Armed w

/-- A timer task that has not appended the item. -/
def Racer.waits : Racer Queue Item → Bool
  | .timer (.queue _ (.wake _)) => false
  | .timer _ => true
  | _ => false

/-- A timer task is to append the item. -/
def Race.Waiting (w : Item) (p : Race Id Queue Item) : Prop :=
  0 < (p.shared.memory.works w).timersUnstarted ∨ ∃ t, (p.threads t).waits = true

/-- The item was appended to no other queue, and outside the call it was appended once for every
call that returned true, but for one whose timer task is still to append it. -/
structure Delivered (q : Queue) (w : Item) (s : Race Id Queue Item × List (Sign Queue)) :
    Prop where
  /-- Every append was to this queue. -/
  only : ∀ q', .appended q' ∈ s.2 → q' = q
  /-- The appends are those of the calls that returned true. -/
  each : ∀ t, s.1.threads t = .client →
    (s.1.Waiting w → s.2.count (.answered true) = s.2.count (.appended q) + 1) ∧
    (¬s.1.Waiting w → s.2.count (.answered true) = s.2.count (.appended q))

/-- Where the item is on its way from a call to the end of its execution. -/
inductive Stage where
  /-- Free to be claimed. -/
  | rest
  /-- The client has set `QUEUED` for a delay and not created the timer task. -/
  | arming
  /-- The timer task was created and has not begun. -/
  | scheduled
  /-- The timer task waits for its delay. -/
  | delayed
  /-- The timer task has ended the delay and asks for the item. -/
  | asking
  /-- `QUEUED` is set for an append. -/
  | appending
  /-- In the list of the queue. -/
  | listed
  /-- Popped and still `QUEUED`. -/
  | serving
  /-- Marked `RUNNING`, and the work function has not returned. -/
  | executing
  deriving DecidableEq

namespace Stage

/-- The `QUEUED` bit. -/
def queued : Stage → Bool
  | .rest | .asking | .executing => false
  | .arming | .scheduled | .delayed | .appending | .listed | .serving => true

/-- The `RUNNING` bit is clear. -/
def still : Stage → Bool
  | .arming | .scheduled | .delayed => true
  | .rest | .asking | .appending | .listed | .serving | .executing => false

/-- The item is in no task's hands. -/
def free : Stage → Bool
  | .rest | .scheduled | .listed => true
  | .arming | .delayed | .asking | .appending | .serving | .executing => false

/-- Granted calls whose execution has not returned. -/
def outstanding : Stage → Nat
  | .rest | .arming => 0
  | .scheduled | .delayed | .asking | .appending | .listed | .serving | .executing => 1

/-- Granted calls whose append has not been made. -/
def waiting : Stage → Nat
  | .scheduled | .delayed | .asking | .appending => 1
  | .rest | .arming | .listed | .serving | .executing => 0

/-- How the item moves on, and what is noted. The flag says that a call was granted which has
not returned yet. -/
inductive Step (q : Queue) : Stage → Bool → List (Sign Queue) → Stage → Bool → Prop
  /-- Nothing that concerns the item. -/
  | keep (s : Stage) (owed : Bool) : Step q s owed [] s owed
  /-- A call returns false. -/
  | refuse (s : Stage) : Step q s false [.answered false] s false
  /-- A call for now is granted. -/
  | claim : Step q .rest false [] .appending true
  /-- A call that was granted returns. -/
  | answer (s : Stage) : Step q s true [.answered true] s false
  /-- A call for a delay sets `QUEUED`. -/
  | arm : Step q .rest false [] .arming false
  /-- The timer task is created. -/
  | create : Step q .arming false [.answered true] .scheduled false
  /-- There is no timer task. -/
  | undo : Step q .arming false [] .rest false
  /-- The timer task begins. -/
  | begin (owed : Bool) : Step q .scheduled owed [] .delayed owed
  /-- The delay ends. -/
  | expire (owed : Bool) : Step q .delayed owed [] .asking owed
  /-- The timer task is granted the item. -/
  | ask (owed : Bool) : Step q .asking owed [] .appending owed
  /-- The item is appended. -/
  | append (owed : Bool) : Step q .appending owed [.appended q] .listed owed
  /-- The worker takes the item. -/
  | pop (owed : Bool) : Step q .listed owed [] .serving owed
  /-- The worker turns `QUEUED` into `RUNNING`. -/
  | execute (owed : Bool) : Step q .serving owed [] .executing owed
  /-- The work function returns. -/
  | finish (owed : Bool) : Step q .executing owed [.returned] .rest owed

end Stage

/-- The notes agree with the stage. -/
structure Tally (q : Queue) (notes : List (Sign Queue)) (stage : Stage) (owed : Bool) : Prop where
  /-- Every append was to this queue. -/
  only : ∀ q', .appended q' ∈ notes → q' = q
  /-- Granted calls have returned executions but for those outstanding. -/
  returned : notes.count (.answered true) + owed.toNat =
    notes.count .returned + stage.outstanding
  /-- Granted calls have appends but for those waiting. -/
  appended : notes.count (.answered true) + owed.toNat =
    notes.count (.appended q) + stage.waiting

/-- The notes go on agreeing. -/
theorem Tally.step {q : Queue} {notes added : List (Sign Queue)} {stage stage' : Stage}
    {owed owed' : Bool} (tally : Tally q notes stage owed)
    (moved : Stage.Step q stage owed added stage' owed') :
    Tally q (added ++ notes) stage' owed' := by
  obtain ⟨only, returned, appended⟩ := tally
  have here : ∀ q', .appended q' ∈ added → q' = q := by
    cases moved <;> simp
  refine ⟨fun q' member => (List.mem_append.mp member).elim (here q') (only q'), ?_, ?_⟩
  · rw [List.count_append, List.count_append]
    cases moved <;> simp [Stage.outstanding] at returned ⊢ <;> omega
  · rw [List.count_append, List.count_append]
    cases moved <;> simp [Stage.waiting] at appended ⊢ <;> omega

/-- The queue that the `wq` of an item stands for. -/
def WorkStruct.target (systemWq : Queue) (work : WorkStruct Queue) : Queue :=
  work.wq.getD systemWq

/-- What the memory says about an item in a stage. -/
structure Fits (q systemWq : Queue) (w : Item) (m : Memory Queue Item) (stage : Stage) : Prop where
  /-- The list is well formed, and the item is in it when it should be. -/
  list : ∃ nodes, (m.list q).Repr nodes ∧ (w ∈ nodes ↔ stage = .listed)
  /-- The `QUEUED` bit. -/
  queued : (m.works w).state.queued = stage.queued
  /-- The `RUNNING` bit. -/
  still : stage.still = true → (m.works w).state.running = false
  /-- The worker is published. -/
  workerTask : (m.queues q).workerTask = true
  /-- At most one timer task waits to begin. -/
  unstarted : (m.works w).timersUnstarted = if stage = .scheduled then 1 else 0
  /-- The timer task that waits to begin will find the delay running and the queue stored. -/
  scheduled : stage = .scheduled →
    (m.works w).active = true ∧ (m.works w).target systemWq = q

/-- The client, inside the function or outside. -/
def Racer.isClient : Racer Queue Item → Bool
  | .client | .queueing _ _ => true
  | _ => false

/-- The client has not been granted the item, or not yet. -/
def Racer.wants : Racer Queue Item → Bool
  | .queueing _ (.queueNow (.ensure _)) | .queueing _ (.queueNow .load)
  | .queueing _ (.queueNow (.cas _)) | .queueing _ .casState | .queueing _ .undoGeneration => true
  | _ => false

/-- The client was granted the item in a call that has not returned. -/
def Racer.owed : Racer Queue Item → Bool
  | .queueing _ (.queueNow .append) | .queueing _ (.queueNow (.wake _)) => true
  | _ => false

/-- The stage of the item in a task's hands. -/
def Racer.stage (w : Item) : Racer Queue Item → Option Stage
  | .queueing _ (.queueNow .append) | .timer (.queue _ .append) => some .appending
  | .queueing _ (.queueNow _) | .queueing _ .casState | .queueing _ .undoGeneration => none
  | .queueing _ _ => some .arming
  | .timer (.queue _ (.wake _)) => none
  | .timer (.queue _ _) => some .asking
  | .timer _ => some .delayed
  | .worker (.load v) | .worker (.cas v _) => if v = w then some .serving else none
  | .worker (.setRunning v) | .worker (.call v) | .worker (.inFunc v) =>
    if v = w then some .executing else none
  | .client | .worker _ | .clearWq _ | .unlock | .idle => none

/-- What a task relies on in what it does next. -/
def Racer.Relies (q systemWq : Queue) (work : WorkStruct Queue) : Racer Queue Item → Prop
  | .queueing _ (.queueNow (.ensure pc)) => pc = .loadTask
  | .queueing _ .storeExpires | .queueing _ .storeActive => work.target systemWq = q
  | .queueing _ .incGeneration | .queueing _ .create =>
    work.active = true ∧ work.target systemWq = q
  | .timer .loadGeneration => work.active = true ∧ work.target systemWq = q
  | .timer (.loadExpires generation) | .timer (.loadWq generation _) =>
    (work.active = true ∧ work.target systemWq = q) ∧ work.generation = generation
  | .timer (.loopActive vars) | .timer (.loopGeneration vars) | .timer (.loopTime vars)
  | .timer (.checkActive vars) | .timer (.checkGeneration vars) =>
    (work.active = true ∧ vars.wq.getD systemWq = q) ∧ work.generation = vars.generation
  | .timer (.clearActive vars) | .timer (.casState vars) => vars.wq.getD systemWq = q
  | .timer .reset => False
  | .timer (.queue q' (.ensure pc)) => q' = q ∧ pc = .loadTask
  | .timer (.queue q' _) => q' = q
  | _ => True

/-- Who moves the item on, and what everyone relies on. -/
structure Tracks (q systemWq : Queue) (w : Item) (client : Id) (p : Race Id Queue Item)
    (stage : Stage) (owner : Option Id) : Prop where
  /-- The memory agrees with the stage. -/
  fits : Fits q systemWq w p.shared.memory stage
  /-- There is one client. -/
  one_client : ∀ t, (p.threads t).isClient = true ↔ t = client
  /-- The owner has the item in its stage, and nobody else has it. -/
  owned : ∀ t, (p.threads t).stage w = if owner = some t then some stage else none
  /-- An item in no task's hands has no owner. -/
  free : owner = none ↔ stage.free = true
  /-- The client asks for an item that is free to be claimed. -/
  asks : ∀ t, (p.threads t).wants = true → stage = .rest
  /-- Every task may rely on what it relies on. -/
  relies : ∀ t, (p.threads t).Relies q systemWq (p.shared.memory.works w)

/-- A step that leaves an item as it is, but for marks of its execution that it may clear. -/
structure Leaves (q systemWq : Queue) (w : Item) (m m' : Memory Queue Item) : Prop where
  /-- The item stays in the list or out of it. -/
  list : ∀ nodes, (m.list q).Repr nodes →
    ∃ nodes', (m'.list q).Repr nodes' ∧ (w ∈ nodes' ↔ w ∈ nodes)
  /-- The `QUEUED` bit stays. -/
  queued : (m'.works w).state.queued = (m.works w).state.queued
  /-- The `RUNNING` bit is not set. -/
  still : (m.works w).state.running = false → (m'.works w).state.running = false
  /-- The worker stays published. -/
  workerTask : (m.queues q).workerTask = true → (m'.queues q).workerTask = true
  /-- No timer task is created or begins. -/
  unstarted : (m'.works w).timersUnstarted = (m.works w).timersUnstarted
  /-- The delay stays as it is. -/
  active : (m'.works w).active = (m.works w).active
  /-- The generation stays. -/
  generation : (m'.works w).generation = (m.works w).generation
  /-- The queue stays stored. -/
  target : (m.works w).target systemWq = q → (m'.works w).target systemWq = q

/-- The item goes on to a stage as the notes say. -/
def Follows (q systemWq : Queue) (w : Item) (client : Id) (p : Race Id Queue Item)
    (stage : Stage) (added : List (Sign Queue)) (p' : Race Id Queue Item) : Prop :=
  ∃ stage' owner', Tracks q systemWq w client p' stage' owner' ∧
    Stage.Step q stage (p.threads client).owed added stage' (p'.threads client).owed

section Parts

variable {q systemWq : Queue} {w : Item} {m m' : Memory Queue Item} {p : Race Id Queue Item}
  {s' : LockedMemory Queue Item} {stage stage' : Stage} {owner : Option Id} {client t : Id}
  {racer next : Racer Queue Item} {added : List (Sign Queue)}

/-- Doing nothing. -/
theorem Leaves.refl : Leaves q systemWq w m m :=
  ⟨fun nodes repr => ⟨nodes, repr, Iff.rfl⟩, rfl, id, id, rfl, rfl, rfl, id⟩

/-- Changing the queue but for its list. -/
theorem Leaves.setQueue {change : WorkqueueStruct Item → WorkqueueStruct Item}
    (ends : (change (m.queues q)).head = (m.queues q).head ∧
      (change (m.queues q)).tail = (m.queues q).tail)
    (still : (change (m.queues q)).workerTask = (m.queues q).workerTask) :
    Leaves q systemWq w m (m.setQueue q change) := by
  refine ⟨fun nodes repr => ⟨nodes, ?_, Iff.rfl⟩, rfl, id, fun published => ?_, rfl, rfl, rfl, id⟩
  · rw [m.setQueue_list q change ends]
    exact repr
  · rw [m.setQueue_queues_self, still]
    exact published

/-- Changing an item: another one, or this one in what the step may change. -/
theorem Leaves.setWork (v : Item) {change : WorkStruct Queue → WorkStruct Queue}
    (queued : v = w → (change (m.works w)).state.queued = (m.works w).state.queued)
    (still : v = w → (m.works w).state.running = false →
      (change (m.works w)).state.running = false)
    (same : v = w → (change (m.works w)).timersUnstarted = (m.works w).timersUnstarted ∧
      (change (m.works w)).active = (m.works w).active ∧
      (change (m.works w)).generation = (m.works w).generation)
    (target : v = w → (m.works w).target systemWq = q →
      (change (m.works w)).target systemWq = q) :
    Leaves q systemWq w m (m.setWork v change) := by
  by_cases here : v = w
  · subst here
    have changed := m.setWork_works_self v change
    refine ⟨fun nodes repr => ⟨nodes, repr, Iff.rfl⟩, ?_, ?_, id, ?_, ?_, ?_, ?_⟩ <;> rw [changed]
    · exact queued rfl
    · exact still rfl
    · exact (same rfl).1
    · exact (same rfl).2.1
    · exact (same rfl).2.2
    · exact target rfl
  · have other : (m.setWork v change).works w = m.works w :=
      m.setWork_works_of_ne v (Ne.symm here) change
    refine ⟨fun nodes repr => ⟨nodes, repr, Iff.rfl⟩, ?_, ?_, id, ?_, ?_, ?_, ?_⟩ <;> rw [other]
    · exact id
    · exact id

/-- A step that leaves the item as it is keeps the stage. -/
theorem Fits.leave (fits : Fits q systemWq w m stage) (leaves : Leaves q systemWq w m m') :
    Fits q systemWq w m' stage where
  list := by
    obtain ⟨nodes, repr, member⟩ := fits.list
    obtain ⟨nodes', repr', same⟩ := leaves.list nodes repr
    exact ⟨nodes', repr', same.trans member⟩
  queued := leaves.queued.trans fits.queued
  still quiet := leaves.still (fits.still quiet)
  workerTask := leaves.workerTask fits.workerTask
  unstarted := leaves.unstarted.trans fits.unstarted
  scheduled waits := by
    obtain ⟨active, target⟩ := fits.scheduled waits
    exact ⟨leaves.active.trans active, leaves.target target⟩

/-- Changing the item outside the list moves it to a stage that fits. -/
theorem Fits.setWork (fits : Fits q systemWq w m stage)
    {change : WorkStruct Queue → WorkStruct Queue} (before : stage ≠ .listed)
    (after : stage' ≠ .listed) (queued : (change (m.works w)).state.queued = stage'.queued)
    (still : stage'.still = true → (change (m.works w)).state.running = false)
    (unstarted : (change (m.works w)).timersUnstarted = if stage' = .scheduled then 1 else 0)
    (scheduled : stage' = .scheduled →
      (change (m.works w)).active = true ∧ (change (m.works w)).target systemWq = q) :
    Fits q systemWq w (m.setWork w change) stage' := by
  obtain ⟨nodes, repr, member⟩ := fits.list
  have absent : w ∉ nodes := fun inside => before (member.mp inside)
  refine ⟨⟨nodes, repr, ?_⟩, ?_, ?_, fits.workerTask, ?_, ?_⟩
  · exact ⟨fun inside => absurd inside absent, fun listed => absurd listed after⟩
  all_goals rw [m.setWork_works_self]
  · exact queued
  · exact still
  · exact unstarted
  · exact scheduled

/-- Changing the delay that is being armed or waited for. -/
theorem Fits.setDelay (fits : Fits q systemWq w m stage)
    {change : WorkStruct Queue → WorkStruct Queue} (during : stage = .arming ∨ stage = .delayed)
    (state : (change (m.works w)).state = (m.works w).state)
    (unstarted : (change (m.works w)).timersUnstarted = (m.works w).timersUnstarted) :
    Fits q systemWq w (m.setWork w change) stage := by
  have outside : stage ≠ .listed ∧ stage ≠ .scheduled := by
    rcases during with rfl | rfl <;> decide
  refine fits.setWork outside.1 outside.1 ?_ ?_ ?_ fun scheduled => absurd scheduled outside.2
  · rw [state]
    exact fits.queued
  · rw [state]
    exact fits.still
  · rw [unstarted]
    exact fits.unstarted

/-- What the worker finds: nothing, another item, or the item. -/
theorem Fits.pop (fits : Fits q systemWq w m stage) {pc : WorkerPc Item}
    (ran : workqueuePopLocked q m = (m', pc)) :
    Leaves q systemWq w m m' ∧ (pc = .block ∨ ∃ v, v ≠ w ∧ pc = .load v) ∨
      stage = .listed ∧ pc = .load w ∧ Fits q systemWq w m' .serving := by
  obtain ⟨nodes, repr, member⟩ := fits.list
  cases nodes with
  | nil =>
    simp only [workqueuePopLocked, repr.pop_nil] at ran
    obtain ⟨rfl, rfl⟩ := Prod.mk.inj ran
    exact .inl ⟨.setQueue ⟨rfl, rfl⟩ rfl, .inl rfl⟩
  | cons v rest =>
    obtain ⟨first, shorter⟩ := repr.pop_cons
    rcases taken : (m.list q).pop with ⟨list, item⟩
    rw [taken] at first shorter
    obtain rfl : item = some v := first
    simp only [workqueuePopLocked, taken] at ran
    obtain ⟨rfl, rfl⟩ := Prod.mk.inj ran
    have left : (((m.setList q list).setQueue q fun wq =>
        { wq with workerWaiting := false, active := wq.active + 1 }).list q).Repr rest := by
      rw [Memory.setQueue_list _ _ _ ⟨rfl, rfl⟩, Memory.setList_list]
      exact shorter
    have published : (m.queues q).workerTask = true →
        (((m.setList q list).setQueue q fun wq =>
          { wq with workerWaiting := false, active := wq.active + 1 }).queues q).workerTask =
            true := by
      intro published
      rw [Memory.setQueue_queues_self, Memory.setList_queues_self]
      exact published
    by_cases here : v = w
    · subst here
      have gone : v ∉ rest := (List.nodup_cons.mp repr.nodup).1
      obtain rfl : stage = .listed := member.mp List.mem_cons_self
      refine .inr ⟨rfl, rfl, ⟨rest, left, by simp [gone]⟩, fits.queued, ?_,
        published fits.workerTask, fits.unstarted, ?_⟩
      · exact fun still => absurd still (by decide)
      · exact fun scheduled => absurd scheduled (by decide)
    · refine .inl ⟨⟨fun nodes' same => ⟨rest, left, ?_⟩, rfl, id, published, rfl, rfl, rfl, id⟩,
        .inr ⟨v, here, rfl⟩⟩
      rw [← same.unique repr |>.symm]
      simp [Ne.symm here]

/-- An append puts the item in the list. -/
theorem Fits.append (fits : Fits q systemWq w m .appending) :
    Fits q systemWq w ((m.setList q ((m.list q).append w)).setWork w fun work =>
      { work with wq := some q }) .listed := by
  obtain ⟨nodes, repr, member⟩ := fits.list
  have absent : w ∉ nodes := fun inside => by simpa using member.mp inside
  refine ⟨⟨nodes ++ [w], ?_, by simp⟩, ?_, ?_, ?_, ?_, ?_⟩
  · rw [Memory.setWork_list, Memory.setList_list]
    exact repr.append absent
  · rw [Memory.setWork_works_self]
    exact fits.queued
  · exact fun still => absurd still (by decide)
  · rw [Memory.setWork_queues, Memory.setList_queues_self]
    exact fits.workerTask
  · rw [Memory.setWork_works_self]
    exact fits.unstarted
  · exact fun scheduled => absurd scheduled (by decide)

/-- What a task relies on concerns the item only while the task has it. -/
theorem Racer.Relies.of_none {racer : Racer Queue Item} {work work' : WorkStruct Queue}
    (empty : racer.stage w = none) (relies : racer.Relies q systemWq work) :
    racer.Relies q systemWq work' := by
  cases racer with
  | queueing delay pc =>
    cases pc with
    | queueNow pc => cases pc <;> exact relies
    | casState | storeWq | undoActive | undoState | undoGeneration => trivial
    | storeExpires | storeActive | incGeneration | create => simp [Racer.stage] at empty
  | timer pc =>
    cases pc with
    | queue q' pc => cases pc <;> exact relies
    | reset => exact relies
    | loadGeneration | loadExpires _ | loadWq _ _ | loopActive _ | loopGeneration _ | loopTime _
    | checkActive _ | checkGeneration _ | clearActive _ | casState _ =>
      simp [Racer.stage] at empty
  | client | worker _ | clearWq _ | unlock | idle => trivial

/-- What a task relies on is kept by a step that leaves the item as it is. -/
theorem Racer.Relies.leave {racer : Racer Queue Item}
    (relies : racer.Relies q systemWq (m.works w)) (leaves : Leaves q systemWq w m m') :
    racer.Relies q systemWq (m'.works w) := by
  have target := leaves.target
  cases racer with
  | queueing delay pc =>
    cases pc with
    | queueNow pc => cases pc <;> exact relies
    | casState | storeWq | undoActive | undoState | undoGeneration => trivial
    | storeExpires | storeActive => exact target relies
    | incGeneration | create => exact ⟨leaves.active.trans relies.1, target relies.2⟩
  | timer pc =>
    cases pc with
    | queue q' pc => cases pc <;> exact relies
    | reset | clearActive _ | casState _ => exact relies
    | loadGeneration => exact ⟨leaves.active.trans relies.1, target relies.2⟩
    | loadExpires _ | loadWq _ _ =>
      exact ⟨⟨leaves.active.trans relies.1.1, target relies.1.2⟩,
        leaves.generation.trans relies.2⟩
    | loopActive _ | loopGeneration _ | loopTime _ | checkActive _ | checkGeneration _ =>
      exact ⟨⟨leaves.active.trans relies.1.1, relies.1.2⟩, leaves.generation.trans relies.2⟩
  | client | worker _ | clearWq _ | unlock | idle => trivial

/-- The owner has the item in its stage. -/
theorem Tracks.owner_of_stage (tracks : Tracks q systemWq w client p stage owner) {s : Stage}
    (has : (p.threads t).stage w = some s) : owner = some t ∧ stage = s := by
  have owned := tracks.owned t
  rw [has] at owned
  split at owned
  · rename_i mine
    exact ⟨mine, (Option.some.inj owned).symm⟩
  · cases owned

/-- A task without the item is not the owner. -/
theorem Tracks.not_owner (tracks : Tracks q systemWq w client p stage owner)
    (empty : (p.threads t).stage w = none) : owner ≠ some t := by
  intro mine
  have owned := tracks.owned t
  rw [empty, if_pos mine] at owned
  cases owned

/-- The client stays the client. -/
theorem Tracks.one_client_update (tracks : Tracks q systemWq w client p stage owner)
    (kind : next.isClient = (p.threads t).isClient) :
    ∀ u, (Function.update p.threads t next u).isClient = true ↔ u = client := by
  intro u
  by_cases here : u = t
  · subst here
    rw [Function.update_self, kind]
    exact tracks.one_client u
  · rw [Function.update_of_ne here]
    exact tracks.one_client u

/-- A step of a task without the item that lets no other task down. -/
theorem Tracks.stay (tracks : Tracks q systemWq w client p stage owner)
    (fits : Fits q systemWq w s'.memory stage)
    (others : ∀ u, u ≠ t → (p.threads u).Relies q systemWq (s'.memory.works w))
    (kind : next.isClient = (p.threads t).isClient) (before : (p.threads t).stage w = none)
    (after : next.stage w = none) (asks : next.wants = true → stage = .rest)
    (relies : next.Relies q systemWq (s'.memory.works w)) :
    Tracks q systemWq w client ⟨s', Function.update p.threads t next⟩ stage owner where
  fits := fits
  one_client := tracks.one_client_update kind
  owned := by
    refine (Function.forall_update_iff p.threads fun u racer =>
      racer.stage w = if owner = some u then some stage else none).mpr
        ⟨?_, fun u _ => tracks.owned u⟩
    rw [after, if_neg (tracks.not_owner before)]
  free := tracks.free
  asks := (Function.forall_update_iff p.threads fun _ racer =>
    racer.wants = true → stage = .rest).mpr ⟨asks, fun u _ => tracks.asks u⟩
  relies := Pool.forall_update.mpr ⟨relies, others⟩

/-- A step of a task without the item that leaves the item as it is. -/
theorem Tracks.keep (tracks : Tracks q systemWq w client p stage owner)
    (leaves : Leaves q systemWq w p.shared.memory s'.memory)
    (kind : next.isClient = (p.threads t).isClient) (before : (p.threads t).stage w = none)
    (after : next.stage w = none) (asks : next.wants = true → stage = .rest)
    (relies : next.Relies q systemWq (s'.memory.works w)) :
    Tracks q systemWq w client ⟨s', Function.update p.threads t next⟩ stage owner :=
  tracks.stay (tracks.fits.leave leaves) (fun u _ => (tracks.relies u).leave leaves) kind before
    after asks relies

/-- A step that moves the item on, by its owner or when it is in no task's hands. -/
theorem Tracks.move (tracks : Tracks q systemWq w client p stage owner)
    (mine : owner = none ∨ owner = some t) (fits : Fits q systemWq w s'.memory stage')
    (kind : next.isClient = (p.threads t).isClient)
    (after : next.stage w = if stage'.free then none else some stage')
    (claims : stage = .rest → (p.threads t).isClient = true)
    (asks : next.wants = true → stage' = .rest)
    (relies : next.Relies q systemWq (s'.memory.works w)) :
    ∃ owner', Tracks q systemWq w client ⟨s', Function.update p.threads t next⟩ stage' owner' := by
  have others : ∀ u, u ≠ t → (p.threads u).stage w = none := by
    intro u apart
    rw [tracks.owned u, if_neg]
    rcases mine with rfl | rfl
    · exact Option.some_ne_none u ∘ Eq.symm
    · exact fun same => apart (Option.some.inj same).symm
  refine ⟨if stage'.free then none else some t, fits, tracks.one_client_update kind, ?_, ?_, ?_, ?_⟩
  · refine (Function.forall_update_iff p.threads fun u racer => racer.stage w =
      if (if stage'.free then none else some t) = some u then some stage' else none).mpr
        ⟨?_, fun u apart => ?_⟩
    · rw [after]
      cases stage'.free <;> simp
    · rw [others u apart]
      cases stage'.free <;> simp [Ne.symm apart]
  · cases stage'.free <;> simp
  · refine (Function.forall_update_iff p.threads fun _ racer =>
      racer.wants = true → stage' = .rest).mpr ⟨asks, fun u apart wants => ?_⟩
    have rest := tracks.asks u wants
    have asking : (p.threads u).isClient = true := by
      revert wants
      cases p.threads u <;> simp [Racer.wants, Racer.isClient]
    have one := (tracks.one_client u).mp asking
    exact absurd (one.trans ((tracks.one_client t).mp (claims rest)).symm) apart
  · refine Pool.forall_update.mpr ⟨relies, fun u apart => ?_⟩
    exact (tracks.relies u).of_none (others u apart)

/-- A step of the client that leaves the item as it is. -/
theorem Tracks.client_keep (tracks : Tracks q systemWq w client p stage owner)
    (here : p.threads t = racer) (kind : racer.isClient = true ∧ next.isClient = true)
    (empty : racer.stage w = none ∧ next.stage w = none)
    (leaves : Leaves q systemWq w p.shared.memory s'.memory)
    (asks : next.wants = true → stage = .rest)
    (relies : next.Relies q systemWq (s'.memory.works w))
    (moved : Stage.Step q stage racer.owed added stage next.owed) :
    Follows q systemWq w client p stage added ⟨s', Function.update p.threads t next⟩ := by
  subst here
  obtain rfl : t = client := (tracks.one_client t).mp kind.1
  refine ⟨stage, owner, tracks.keep leaves ?_ empty.1 empty.2 asks relies, ?_⟩
  · rw [kind.1, kind.2]
  · simpa using moved

/-- A step of the client that moves the item on. -/
theorem Tracks.client_move (tracks : Tracks q systemWq w client p stage owner)
    (here : p.threads t = racer) (kind : racer.isClient = true ∧ next.isClient = true)
    (mine : owner = none ∨ owner = some t) (fits : Fits q systemWq w s'.memory stage')
    (after : next.stage w = if stage'.free then none else some stage')
    (asks : next.wants = true → stage' = .rest)
    (relies : next.Relies q systemWq (s'.memory.works w))
    (moved : Stage.Step q stage racer.owed added stage' next.owed) :
    Follows q systemWq w client p stage added ⟨s', Function.update p.threads t next⟩ := by
  subst here
  obtain rfl : t = client := (tracks.one_client t).mp kind.1
  have same : next.isClient = (p.threads t).isClient := by rw [kind.1, kind.2]
  obtain ⟨owner', tracks'⟩ :=
    tracks.move mine fits same after (fun _ => kind.1) asks relies
  exact ⟨stage', owner', tracks', by simpa using moved⟩

/-- Another task's step says nothing about the client's call. -/
theorem Follows.of_other (other : t ≠ client)
    (tracks : Tracks q systemWq w client ⟨s', Function.update p.threads t next⟩ stage' owner)
    (moved : ∀ owed, Stage.Step q stage owed added stage' owed) :
    Follows q systemWq w client p stage added ⟨s', Function.update p.threads t next⟩ := by
  refine ⟨stage', owner, tracks, ?_⟩
  have same : Function.update p.threads t next client = p.threads client :=
    Function.update_of_ne other.symm ..
  dsimp only
  rw [same]
  exact moved _

/-- A step of another task that leaves the item as it is. -/
theorem Tracks.other_keep (tracks : Tracks q systemWq w client p stage owner)
    (here : p.threads t = racer) (kind : racer.isClient = false ∧ next.isClient = false)
    (empty : racer.stage w = none ∧ next.stage w = none)
    (leaves : Leaves q systemWq w p.shared.memory s'.memory)
    (relies : next.Relies q systemWq (s'.memory.works w)) :
    Follows q systemWq w client p stage [] ⟨s', Function.update p.threads t next⟩ := by
  subst here
  have other : t ≠ client := fun same => by simp [(tracks.one_client t).mpr same] at kind
  have asks : next.wants = true → stage = .rest := by
    revert kind
    cases next <;> simp [Racer.wants, Racer.isClient]
  refine .of_other other (tracks.keep leaves ?_ empty.1 empty.2 asks relies) fun _ => .keep _ _
  rw [kind.1, kind.2]

/-- A step of another task that moves the item on. -/
theorem Tracks.other_move (tracks : Tracks q systemWq w client p stage owner)
    (here : p.threads t = racer) (kind : racer.isClient = false ∧ next.isClient = false)
    (mine : owner = none ∧ stage ≠ .rest ∨ racer.stage w = some stage)
    (fits : Fits q systemWq w s'.memory stage')
    (after : next.stage w = if stage'.free then none else some stage')
    (relies : next.Relies q systemWq (s'.memory.works w))
    (moved : ∀ owed, Stage.Step q stage owed added stage' owed) :
    Follows q systemWq w client p stage added ⟨s', Function.update p.threads t next⟩ := by
  subst here
  have other : t ≠ client := fun same => by simp [(tracks.one_client t).mpr same] at kind
  have asks : next.wants = true → stage' = .rest := by
    revert kind
    cases next <;> simp [Racer.wants, Racer.isClient]
  have owns : owner = none ∨ owner = some t :=
    mine.imp And.left fun has => (tracks.owner_of_stage has).1
  have claimed : stage = .rest → (p.threads t).isClient = true := by
    rintro rfl
    rcases mine with ⟨-, moving⟩ | has
    · exact absurd rfl moving
    · have owned := (tracks.owner_of_stage has).1
      simp [tracks.free.mpr rfl] at owned
  obtain ⟨owner', tracks'⟩ :=
    tracks.move owns fits (by rw [kind.1, kind.2]) after claimed asks relies
  exact .of_other other tracks' moved

end Parts

end Lcompat.Workqueue

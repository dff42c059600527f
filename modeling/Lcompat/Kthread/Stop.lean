import Lcompat.Kthread.Park

/-!
# The life of a kernel thread

A kernel thread from `kthread_run` to the end of its native task, with its record in
`lcompat_kthreads`, its stored `task` pointer, and the controller that wakes, parks, unparks and
stops it. What `kthread_stop` returns and frees is right in every interleaving. `task_unblock` is
called on a native task that has come to its end, unless the thread returns only to a
`kthread_stop` that has already woken it.
-/

namespace Lcompat.Kthread

open Lcompat.Logic

/-- Where the thread is, from the creation of its native task on. -/
inductive TaskPc where
  /-- Not created. -/
  | unborn
  /-- In `lcompat_kthread_entry`, about to store `task`. -/
  | setTask
  /-- In the rest of it, or in its function. -/
  | body (pc : ThreadPc)
  /-- In `lcompat_kthread_remove`, which it calls between storing its result and exiting. -/
  | remove
  /-- Nowhere: the kernel has taken the native task away. -/
  | gone
  deriving DecidableEq

/-- Where the controller is, from `kthread_run` on. -/
inductive OwnerPc where
  /-- In `kthread_run`, about to call `lcompat_kthread_add`. -/
  | add
  /-- About to call `task_create`. -/
  | create
  /-- About to store `task`. -/
  | storeTask
  /-- In `kthread_run` without a task, about to call `lcompat_kthread_remove`. -/
  | removeFailed
  /-- About to call `kfree`. -/
  | freeFailed
  /-- Behind a `kthread_run` that has failed. -/
  | failed
  /-- In `wake_up_process`. -/
  | waking (pc : WakePc)
  /-- Outside, or in one of the other functions. -/
  | calling (pc : ControllerPc)
  /-- In `kthread_stop`, about to call `kfree`. -/
  | freeing (ret : Int)
  deriving DecidableEq

/-- A thread with its record and its native task, and its controller. -/
structure Life where
  /-- The record. -/
  thread : TaskStruct
  /-- The record is in `lcompat_kthreads`. -/
  registered : Bool
  /-- `task` is stored. -/
  task : Bool
  /-- The record has been freed. -/
  freed : Bool
  /-- Where the thread is. -/
  self : TaskPc
  /-- Where the controller is. -/
  owner : OwnerPc
  deriving DecidableEq

/-- `kthread_run` has allocated and filled the record. -/
def allocated : Life := ⟨kthreadRun, false, false, false, .unborn, .add⟩

/-- What the controller does next. -/
inductive OwnerCommand where
  /-- Call `wake_up_process`. -/
  | wake
  /-- Call one of the other functions, or take the next step of it. -/
  | call (command : Command)
  /-- Take the next step of `kthread_run` or `wake_up_process`, or free the record. -/
  | go
  /-- Find that `task_create` fails. -/
  | refuse
  deriving DecidableEq

/-- Where a step of the thread leads: `lcompat_kthread_remove` comes between storing the result and
exiting. -/
def TaskPc.next : ThreadPc → TaskPc
  | .setExited => .remove
  | pc => .body pc

/-- The next step of the thread. -/
def taskStep (k : Life) (work : Work) : Option Life :=
  match k.self, work with
  | .setTask, .go _ => some { k with task := true, self := .body .entry }
  | .remove, .go _ => some { k with registered := false, self := .body .setExited }
  | .body .exited, .go _ => some { k with self := .gone }
  | .body pc, work => (threadStep k.thread pc work).map fun next =>
    { k with thread := next.1, self := TaskPc.next next.2 }
  | _, _ => none

/-- Where a step of the controller leads: `kfree` is the last step of `kthread_stop`. -/
def OwnerPc.next : ControllerPc → OwnerPc
  | .stopped ret => .freeing ret
  | pc => .calling pc

/-- The next step of the controller. -/
def ownerStep (k : Life) (command : OwnerCommand) : Option Life :=
  match k.owner, command with
  | .add, .go => some { k with registered := true, owner := .create }
  | .create, .go => some { k with self := .setTask, owner := .storeTask }
  | .create, .refuse => some { k with owner := .removeFailed }
  | .storeTask, .go => some { k with task := true, owner := .calling .idle }
  | .removeFailed, .go => some { k with registered := false, owner := .freeFailed }
  | .freeFailed, .go => some { k with freed := true, owner := .failed }
  | .calling .idle, .wake => some { k with owner := .waking .setRunning }
  | .waking pc, .go =>
    match wakeUpProcess k.thread pc with
    | (thread, .goto pc) => some { k with thread := thread, owner := .waking pc }
    | (thread, .ret _) => some { k with thread := thread, owner := .calling .idle }
  | .calling pc, .call command => (controllerStep k.thread pc command).map fun next =>
    { k with thread := next.1, owner := OwnerPc.next next.2 }
  | .freeing ret, .go => some { k with freed := true, owner := .calling (.stopped ret) }
  | _, _ => none

/-- A step of the thread or of its controller. -/
inductive LifeLabel where
  /-- The thread takes a step, or its native task is taken away. -/
  | task (work : Work)
  /-- The controller takes a step. -/
  | owner (command : OwnerCommand)
  deriving DecidableEq

/-- One step. -/
def lifeStep (k : Life) : LifeLabel → Option Life
  | .task work => taskStep k work
  | .owner command => ownerStep k command

/-- Every interleaving of the life of a thread with the calls of its controller. -/
def life : System Life LifeLabel where
  init k := k = allocated
  step := lifeStep

/-- What is noted of a life. -/
inductive LifeNote where
  /-- The thread's function has returned. -/
  | returned (ret : Int)
  /-- `task_unblock` was called on the native task, whose entry function had returned or not. -/
  | unblocked (ended : Bool)
  deriving DecidableEq

/-- The entry function has returned. -/
def TaskPc.ended : TaskPc → Bool
  | .body .exited | .gone => true
  | .unborn | .setTask | .remove | .body _ => false

/-- The next step of a call is `task_unblock`. -/
def ControllerPc.unblocks : ControllerPc → Bool
  | .parking (.wake .unblock) | .unparking (.wake .unblock) | .stopping (.wake .unblock) => true
  | .idle | .parking _ | .unparking _ | .stopping _ | .stopped _ => false

/-- The next step of the controller is `task_unblock`. -/
def OwnerPc.unblocks : OwnerPc → Bool
  | .waking .unblock => true
  | .calling pc => pc.unblocks
  | .waking .setRunning | .add | .create | .storeTask | .removeFailed | .freeFailed | .failed
  | .freeing _ => false

/-- What is noted of a step of the thread. -/
def workNotes : Work → List LifeNote
  | .finish ret => [.returned ret]
  | .check | .park | .setState _ | .schedule | .go _ => []

/-- What is noted of a step. -/
def lifeNotes (k : Life) : LifeLabel → List LifeNote
  | .task work => workNotes work
  | .owner _ => if k.owner.unblocks then [.unblocked k.self.ended] else []

/-- The thread touches its record at a later step. -/
def TaskPc.touches : TaskPc → Bool
  | .setTask | .remove => true
  | .body pc => pc ≠ .exited
  | .unborn | .gone => false

/-- `kthread_stop` returns what the thread's function has returned, and frees the record when it is
out of the registry and the thread is done with it. -/
structure Stops (k : Life × List LifeNote) : Prop where
  /-- What it returns. -/
  result : ∀ ret, k.1.owner = .calling (.stopped ret) →
    ∀ ret', .returned ret' ∈ k.2 ↔ ret' = ret
  /-- When the record is free, it is not registered and not touched. -/
  freed : k.1.freed = true → k.1.registered = false ∧ k.1.self.touches = false

/-- `task_unblock` was not called on a native task whose entry function had returned. -/
def WakesLive (k : Life × List LifeNote) : Prop := .unblocked true ∉ k.2

/-- `kthread_stop` has woken the thread. -/
def ControllerPc.woken : ControllerPc → Bool
  | .stopping .loadExited | .stopping .yield | .stopping .loadResult | .stopped _ => true
  | .idle | .parking _ | .unparking _ | .stopping _ => false

/-- The controller has called `kthread_stop`, which has woken the thread. -/
def OwnerPc.woken : OwnerPc → Bool
  | .calling pc => pc.woken
  | .freeing _ => true
  | .add | .create | .storeTask | .removeFailed | .freeFailed | .failed | .waking _ => false

/-- The entry function returns only when `kthread_stop` has woken the thread. -/
def Attended (k : Life × List LifeNote) (a : LifeLabel) : Prop :=
  ∀ spurious, a = .task (.go spurious) → k.1.self = .body .setExited → k.1.owner.woken = true

/-! ## What every step keeps -/

/-- What the thread's function has returned so far, when the thread is at a place. -/
def ThreadPc.results (result : Int) : ThreadPc → List Int
  | .storeResult ret => [ret]
  | .setExited | .exited => [result]
  | .entry | .function | .scheduling _ | .parking _ => []

/-- The same for the native task. -/
def TaskPc.results (result : Int) : TaskPc → List Int
  | .unborn | .setTask => []
  | .body pc => pc.results result
  | .remove | .gone => [result]

/-- What the notes say that the thread's function has returned. -/
def LifeNote.result? : LifeNote → Option Int
  | .returned ret => some ret
  | .unblocked _ => none

/-- The record is in the registry when the thread is at a place. -/
def TaskPc.listed : TaskPc → Bool
  | .setTask | .remove => true
  | .body .setExited | .body .exited | .unborn | .gone => false
  | .body _ => true

/-- It is, although the thread is not created. -/
def OwnerPc.lists : OwnerPc → Bool
  | .create | .removeFailed => true
  | .add | .storeTask | .freeFailed | .failed | .waking _ | .calling _ | .freeing _ => false

/-- The thread is not created when the controller is at a place. -/
def OwnerPc.early : OwnerPc → Bool
  | .add | .create | .removeFailed | .freeFailed | .failed => true
  | .storeTask | .waking _ | .calling _ | .freeing _ => false

/-- `kthread_stop` has seen that the thread has exited. -/
def ControllerPc.seen : ControllerPc → Bool
  | .stopping .loadResult | .stopped _ => true
  | .idle | .parking _ | .unparking _ | .stopping _ => false

/-- The same for the controller. -/
def OwnerPc.seen : OwnerPc → Bool
  | .calling pc => pc.seen
  | .freeing _ => true
  | .add | .create | .storeTask | .removeFailed | .freeFailed | .failed | .waking _ => false

/-- The record has been freed when the controller is at a place. -/
def OwnerPc.freed : OwnerPc → Bool
  | .failed | .calling (.stopped _) => true
  | .add | .create | .storeTask | .removeFailed | .freeFailed | .waking _ | .calling _
  | .freeing _ => false

/-- What `kthread_stop` has read for its result. -/
def OwnerPc.result? : OwnerPc → Option Int
  | .freeing ret | .calling (.stopped ret) => some ret
  | .add | .create | .storeTask | .removeFailed | .freeFailed | .failed | .waking _
  | .calling _ => none

/-- What holds in every interleaving. -/
structure Living (k : Life × List LifeNote) : Prop where
  /-- The thread exists once `kthread_run` has created it. -/
  unborn : k.1.self = .unborn ↔ k.1.owner.early = true
  /-- The record is registered until the thread takes it out. -/
  registered : k.1.registered = (k.1.self.listed || k.1.owner.lists)
  /-- `exited` tells whether the entry function has returned. -/
  exited : k.1.thread.exited = k.1.self.ended
  /-- `kthread_stop` goes on when the thread has exited. -/
  seen : k.1.owner.seen = true → k.1.thread.exited = true
  /-- `result` is what the function has returned, once it is stored. -/
  results : k.2.filterMap LifeNote.result? = k.1.self.results k.1.thread.result
  /-- `kthread_stop` has read it. -/
  result : ∀ ret, k.1.owner.result? = some ret → ret = k.1.thread.result
  /-- The record is freed last. -/
  freed : k.1.freed = k.1.owner.freed

/-- A step of the thread returns at most one result, and stores it before it exits. -/
theorem threadStep_results {thread thread' : TaskStruct} {pc pc' : ThreadPc} {work : Work}
    (ran : threadStep thread pc work = some (thread', pc')) :
    pc'.results thread'.result = (workNotes work).filterMap LifeNote.result? ++
      pc.results thread.result := by
  cases pc with
  | scheduling pc =>
    cases work with
    | go spurious =>
      cases pc <;> grind -ring -linarith [threadStep, lcompatSchedule, taskBlock,
        ThreadPc.results, workNotes, LifeNote.result?]
    | check | park | setState | schedule | finish => simp [threadStep] at ran
  | parking pc =>
    cases work with
    | go spurious =>
      cases pc <;> grind -ring -linarith [threadStep, kthreadParkme, taskBlock,
        ThreadPc.results, workNotes, LifeNote.result?]
    | check | park | setState | schedule | finish => simp [threadStep] at ran
  | entry | function | storeResult | setExited | exited =>
    cases work <;> grind -ring -linarith [threadStep, ThreadPc.results, workNotes,
      LifeNote.result?]

/-- A step of the thread keeps what says where it is. -/
theorem threadStep_places {thread thread' : TaskStruct} {pc pc' : ThreadPc} {work : Work}
    (ran : threadStep thread pc work = some (thread', pc')) :
    (TaskPc.next pc').listed = (TaskPc.body pc).listed ∧
      (thread.exited = (TaskPc.body pc).ended → thread'.exited = (TaskPc.next pc').ended) ∧
      ((TaskPc.next pc').ended = true → pc = .setExited ∧ ∃ spurious, work = .go spurious) := by
  cases pc with
  | scheduling pc =>
    cases work with
    | go spurious =>
      cases pc <;> grind -ring -linarith [threadStep, lcompatSchedule, taskBlock, TaskPc.next,
        TaskPc.listed, TaskPc.ended]
    | check | park | setState | schedule | finish => simp [threadStep] at ran
  | parking pc =>
    cases work with
    | go spurious =>
      cases pc <;> grind -ring -linarith [threadStep, kthreadParkme, taskBlock, TaskPc.next,
        TaskPc.listed, TaskPc.ended]
    | check | park | setState | schedule | finish => simp [threadStep] at ran
  | entry | function | storeResult | setExited | exited =>
    cases work <;> grind -ring -linarith [threadStep, TaskPc.next, TaskPc.listed, TaskPc.ended]

/-- The next place after a step of the thread is in the entry function. -/
@[simp]
theorem TaskPc.next_ne_unborn (pc : ThreadPc) : TaskPc.next pc ≠ .unborn := by
  cases pc <;> simp [TaskPc.next]

/-- The results at the next place. -/
@[simp]
theorem TaskPc.results_next (result : Int) (pc : ThreadPc) :
    (TaskPc.next pc).results result = pc.results result := by
  cases pc <;> rfl

/-- A step of a thread in its entry function is one of the thread's own, or takes its native task
away. -/
theorem taskStep_body {k k' : Life} {pc : ThreadPc} {work : Work} (here : k.self = .body pc)
    (ran : taskStep k work = some k') :
    (pc = .exited ∧ (∃ spurious, work = .go spurious) ∧ k' = { k with self := .gone }) ∨
      ∃ thread pc', threadStep k.thread pc work = some (thread, pc') ∧
        k' = { k with thread := thread, self := TaskPc.next pc' } := by
  obtain ⟨thread, registered, task, freed, self, owner⟩ := k
  obtain rfl : self = .body pc := here
  cases pc with
  | exited =>
    cases work with
    | go spurious => exact .inl ⟨rfl, ⟨spurious, rfl⟩, (Option.some.inj ran).symm⟩
    | check | park | setState | schedule | finish => cases ran
  | entry | function | scheduling | parking | storeResult | setExited =>
    obtain ⟨⟨thread, pc'⟩, stepped, rfl⟩ := Option.map_eq_some_iff.mp ran
    exact .inr ⟨thread, pc', stepped, rfl⟩

/-- Every step of the thread keeps what holds of its life. -/
theorem Living.task {k : Life × List LifeNote} {k' : Life} {work : Work} (living : Living k)
    (ran : taskStep k.1 work = some k') : Living (k', workNotes work ++ k.2) := by
  obtain ⟨⟨thread, registered, task, freed, self, owner⟩, notes⟩ := k
  obtain ⟨unborn, registered_, exited, seen, results, result, freed_⟩ := living
  simp only at unborn registered_ exited seen results result freed_ ran
  have early : self ≠ .unborn → owner.early = false := by
    intro born
    simpa [born] using unborn
  have lists : self ≠ .unborn → owner.lists = false := by
    intro born
    cases owner <;> simp_all [OwnerPc.early, OwnerPc.lists]
  cases self with
  | unborn | gone => cases work <;> cases ran
  | setTask =>
    cases work with
    | go spurious =>
      obtain rfl := Option.some.inj ran
      exact ⟨by simp [early], registered_, exited, seen, results, result, freed_⟩
    | check | park | setState | schedule | finish => cases ran
  | remove =>
    cases work with
    | go spurious =>
      obtain rfl := Option.some.inj ran
      exact ⟨by simp [early], by simp [lists, TaskPc.listed], exited, seen, results, result, freed_⟩
    | check | park | setState | schedule | finish => cases ran
  | body pc =>
    have born : owner.early = false := early (by simp)
    rcases taskStep_body rfl ran with ⟨rfl, ⟨spurious, rfl⟩, rfl⟩ | ⟨thread', pc', stepped, rfl⟩
    · exact ⟨by simp [born], registered_, exited, seen, results, result, freed_⟩
    · obtain ⟨listed, ended, -⟩ := threadStep_places stepped
      have told := threadStep_results stepped
      -- the thread takes a step, so `kthread_stop` has not seen that it has exited
      have waits : owner.seen = false := by
        refine Bool.eq_false_iff.mpr fun found => ?_
        have done : (TaskPc.body pc).ended = true := exited.symm.trans (seen found)
        cases pc with
        | exited => simp [threadStep] at stepped
        | entry | function | scheduling | parking | storeResult | setExited =>
          simp [TaskPc.ended] at done
      have unread : owner.result? = none := by
        cases owner with
        | freeing => simp [OwnerPc.seen] at waits
        | calling pc => cases pc <;> first | rfl | simp [OwnerPc.seen, ControllerPc.seen] at waits
        | add | create | storeTask | removeFailed | freeFailed | failed | waking => rfl
      refine ⟨by simp [born], ?_, ended exited, ?_, ?_, ?_, freed_⟩
      · rw [listed]
        exact registered_
      · intro found
        exact absurd found (by simp [waits])
      · rw [List.filterMap_append, results, TaskPc.results_next]
        exact told.symm
      · intro ret read
        exact absurd read (by simp [unread])

/-- A step of the controller leaves what the thread has left alone, and looks at it before it
goes on. -/
theorem controllerStep_seen {thread thread' : TaskStruct} {pc pc' : ControllerPc}
    {command : Command} (ran : controllerStep thread pc command = some (thread', pc')) :
    thread'.result = thread.result ∧
      (pc'.seen = true → thread.exited = true ∨ pc.seen = true) ∧
      (∀ ret, pc' = .stopped ret → ret = thread.result ∧ pc = .stopping .loadResult) := by
  cases command with
  | go =>
    cases pc with
    | parking pc =>
      rcases pc with _ | (_ | _) | _ | _ | _ <;>
        grind -ring -linarith [controllerStep, kthreadPark, wakeUpProcess, ControllerPc.seen]
    | unparking pc =>
      rcases pc with _ | (_ | _) <;>
        grind -ring -linarith [controllerStep, kthreadUnpark, wakeUpProcess, ControllerPc.seen]
    | stopping pc =>
      rcases pc with _ | _ | (_ | _) | _ | _ | _ <;>
        grind -ring -linarith [controllerStep, kthreadStop, wakeUpProcess, ControllerPc.seen]
    | idle | stopped => simp [controllerStep] at ran
  | park | unpark | stop =>
    cases pc <;> grind -ring -linarith [controllerStep, ControllerPc.seen]

/-- A step of a controller outside the functions, or in one of them. -/
theorem ownerStep_calling {k k' : Life} {pc : ControllerPc} {command : OwnerCommand}
    (here : k.owner = .calling pc) (ran : ownerStep k command = some k') :
    (pc = .idle ∧ k' = { k with owner := .waking .setRunning }) ∨
      ∃ called thread pc', controllerStep k.thread pc called = some (thread, pc') ∧
        k' = { k with thread := thread, owner := OwnerPc.next pc' } := by
  obtain ⟨thread, registered, task, freed, self, owner⟩ := k
  obtain rfl : owner = .calling pc := here
  cases command with
  | call called =>
    have ran : (controllerStep thread pc called).map (fun next =>
        (⟨next.1, registered, task, freed, self, OwnerPc.next next.2⟩ : Life)) = some k' := by
      cases pc <;> exact ran
    obtain ⟨⟨thread', pc'⟩, stepped, rfl⟩ := Option.map_eq_some_iff.mp ran
    exact .inr ⟨called, thread', pc', stepped, rfl⟩
  | wake =>
    cases pc with
    | idle => exact .inl ⟨rfl, (Option.some.inj ran).symm⟩
    | parking | unparking | stopping | stopped => cases ran
  | go | refuse => cases pc <;> cases ran

/-- The results do not depend on calls of the controller. -/
@[simp]
theorem filterMap_unblocked (unblocks ended : Bool) :
    (if unblocks then [LifeNote.unblocked ended] else []).filterMap LifeNote.result? = [] := by
  cases unblocks <;> rfl

/-- Every step of the controller keeps what holds of the life. -/
theorem Living.owner {k : Life × List LifeNote} {k' : Life} {command : OwnerCommand}
    (living : Living k) (ran : ownerStep k.1 command = some k') :
    Living (k', lifeNotes k.1 (.owner command) ++ k.2) := by
  obtain ⟨⟨thread, registered, task, freed, self, owner⟩, notes⟩ := k
  obtain ⟨unborn, registered_, exited, seen, results, result, freed_⟩ := living
  simp only at unborn registered_ exited seen results result freed_ ran
  have told : (lifeNotes ⟨thread, registered, task, freed, self, owner⟩ (.owner command) ++
      notes).filterMap LifeNote.result? = self.results thread.result := by
    rw [List.filterMap_append, lifeNotes, filterMap_unblocked, List.nil_append, results]
  cases owner with
  | add =>
    cases command with
    | go =>
      obtain rfl := Option.some.inj ran
      obtain rfl : self = .unborn := unborn.mpr rfl
      exact ⟨unborn, by simp [TaskPc.listed, OwnerPc.lists], exited, seen, told, result, freed_⟩
    | wake | call | refuse => cases ran
  | create =>
    obtain rfl : self = .unborn := unborn.mpr rfl
    cases command with
    | go =>
      obtain rfl := Option.some.inj ran
      exact ⟨by simp [OwnerPc.early], registered_, exited, seen, told, result, freed_⟩
    | refuse =>
      obtain rfl := Option.some.inj ran
      exact ⟨unborn, registered_, exited, seen, told, result, freed_⟩
    | wake | call => cases ran
  | storeTask =>
    cases command with
    | go =>
      obtain rfl := Option.some.inj ran
      exact ⟨unborn, registered_, exited, seen, told, result, freed_⟩
    | wake | call | refuse => cases ran
  | removeFailed =>
    cases command with
    | go =>
      obtain rfl := Option.some.inj ran
      obtain rfl : self = .unborn := unborn.mpr rfl
      exact ⟨unborn, by simp [TaskPc.listed, OwnerPc.lists], exited, seen, told, result, freed_⟩
    | wake | call | refuse => cases ran
  | freeFailed =>
    cases command with
    | go =>
      obtain rfl := Option.some.inj ran
      exact ⟨unborn, registered_, exited, seen, told, result, by simp [OwnerPc.freed]⟩
    | wake | call | refuse => cases ran
  | failed => cases command <;> cases ran
  | waking pc =>
    cases command with
    | go =>
      cases pc <;> obtain rfl := Option.some.inj ran <;>
        exact ⟨unborn, registered_, exited, seen, told, result, freed_⟩
    | wake | call | refuse => cases ran
  | freeing ret =>
    cases command with
    | go =>
      obtain rfl := Option.some.inj ran
      exact ⟨unborn, registered_, exited, seen, told, result, by simp [OwnerPc.freed]⟩
    | wake | call | refuse => cases ran
  | calling pc =>
    rcases ownerStep_calling rfl ran with ⟨rfl, rfl⟩ | ⟨called, thread', pc', stepped, rfl⟩
    · exact ⟨unborn, registered_, exited, seen, told, result, freed_⟩
    · obtain ⟨-, sameExited⟩ := controllerStep_says stepped
      obtain ⟨sameResult, looked, read⟩ := controllerStep_seen stepped
      have follows : (OwnerPc.next pc').early = false ∧ (OwnerPc.next pc').lists = false ∧
          (OwnerPc.next pc').freed = false ∧ (OwnerPc.next pc').seen = pc'.seen := by
        cases pc' <;> exact ⟨rfl, rfl, rfl, rfl⟩
      obtain ⟨born, lists, held, found⟩ := follows
      have before : (OwnerPc.calling pc).freed = false := by
        cases pc with
        | stopped => simp [controllerStep] at stepped
        | idle | parking | unparking | stopping => rfl
      refine ⟨?_, ?_, sameExited.trans exited, ?_, ?_, ?_, freed_.trans (before.trans held.symm)⟩
      · exact unborn.trans (iff_of_false (by simp [OwnerPc.early]) (by simp [born]))
      · rw [lists]
        exact registered_
      · rw [found, sameExited]
        intro now
        exact (looked now).elim id seen
      · exact told.trans (congrArg self.results sameResult.symm)
      · intro ret next
        cases pc' with
        | stopped ret' =>
          obtain rfl := Option.some.inj next
          exact (read ret' rfl).1.trans sameResult.symm
        | idle | parking | unparking | stopping => cases next

/-- Every state of a life is one of a living thread. -/
theorem living_of_reachable {k : Life × List LifeNote}
    (reach : (life.record lifeNotes).Reachable k) : Living k := by
  refine reach.invariant Living ?_ ?_
  · rintro ⟨k, notes⟩ ⟨rfl, rfl⟩
    refine ⟨by decide, rfl, rfl, fun found => ?_, rfl, fun ret read => ?_, rfl⟩
    · cases found
    · cases read
  · rintro k a ⟨next, notes⟩ living - stepped
    obtain ⟨moved, noted⟩ := System.record_step_eq_some.mp stepped
    obtain rfl : notes = lifeNotes k.1 a ++ k.2 := noted
    cases a with
    | task work => exact living.task moved
    | owner command => exact living.owner moved

/-- A thread that has exited has returned once, and is out of the registry. -/
theorem TaskPc.of_ended {self : TaskPc} (ended : self.ended = true) (result : Int) :
    self.results result = [result] ∧ self.listed = false ∧ self.touches = false := by
  cases self with
  | gone => exact ⟨rfl, rfl, rfl⟩
  | body pc =>
    cases pc with
    | exited => exact ⟨rfl, rfl, rfl⟩
    | entry | function | scheduling | parking | storeResult | setExited => cases ended
  | unborn | setTask | remove => cases ended

/-- In every interleaving `kthread_stop` returns what the thread's function has returned, and frees
the record last. -/
theorem Living.stops {k : Life × List LifeNote} (living : Living k) : Stops k := by
  constructor
  · intro ret stopped ret'
    have read : ret = k.1.thread.result := living.result ret (by rw [stopped]; rfl)
    have exited : k.1.self.ended = true :=
      living.exited.symm.trans (living.seen (by rw [stopped]; rfl))
    have once : k.2.filterMap LifeNote.result? = [ret] := by
      rw [living.results, (TaskPc.of_ended exited _).1, read]
    have member : .returned ret' ∈ k.2 ↔ ret' ∈ k.2.filterMap LifeNote.result? := by
      rw [List.mem_filterMap]
      constructor
      · exact fun noted => ⟨_, noted, rfl⟩
      · rintro ⟨note, noted, told⟩
        cases note with
        | returned => exact Option.some.inj told ▸ noted
        | unblocked => cases told
    rw [member, once, List.mem_singleton]
  · intro freed
    have last : k.1.owner.freed = true := living.freed ▸ freed
    have registered := living.registered
    cases owner : k.1.owner with
    | failed =>
      have unborn := living.unborn.mpr (by rw [owner]; rfl)
      rw [unborn, owner] at registered
      rw [unborn]
      exact ⟨registered, rfl⟩
    | calling pc =>
      rw [owner] at last registered
      cases pc with
      | stopped ret =>
        have exited : k.1.self.ended = true :=
          living.exited.symm.trans (living.seen (by rw [owner]; rfl))
        obtain ⟨-, unlisted, untouched⟩ := TaskPc.of_ended exited 0
        rw [unlisted] at registered
        exact ⟨registered, untouched⟩
      | idle | parking | unparking | stopping => cases last
    | add | create | storeTask | removeFailed | freeFailed | waking | freeing =>
      rw [owner] at last
      cases last

/-- The thread has exited only to a `kthread_stop` that has woken it, and was never woken after
that. -/
structure Heeded (k : Life × List LifeNote) : Prop where
  /-- `kthread_stop` has woken a thread that has exited. -/
  woken : k.1.self.ended = true → k.1.owner.woken = true
  /-- It was not woken again. -/
  live : WakesLive k

/-- A controller in `kthread_stop` that has woken the thread does not wake it again. -/
theorem OwnerPc.unblocks_of_woken {owner : OwnerPc} (woken : owner.woken = true) :
    owner.unblocks = false := by
  cases owner with
  | calling pc =>
    cases pc with
    | stopping pc =>
      cases pc with
      | wake => cases woken
      | setShouldStop | clearShouldPark | loadExited | yield | loadResult => rfl
    | stopped => rfl
    | idle | parking | unparking => cases woken
  | freeing => rfl
  | add | create | storeTask | removeFailed | freeFailed | failed | waking => cases woken

/-- It stays in it. -/
theorem controllerStep_woken {thread thread' : TaskStruct} {pc pc' : ControllerPc}
    {command : Command} (ran : controllerStep thread pc command = some (thread', pc'))
    (woken : pc.woken = true) : pc'.woken = true := by
  cases pc with
  | stopping pc =>
    cases command with
    | go =>
      rcases pc with _ | _ | (_ | _) | _ | _ | _ <;>
        grind -ring -linarith [controllerStep, kthreadStop, wakeUpProcess, ControllerPc.woken]
    | park | unpark | stop => cases ran
  | stopped => cases command <;> cases ran
  | idle | parking | unparking => cases woken

/-- So it does with the record still to be freed. -/
theorem OwnerPc.woken_step {k k' : Life} {command : OwnerCommand}
    (ran : ownerStep k command = some k') (woken : k.owner.woken = true) :
    k'.owner.woken = true ∧ k'.self = k.self := by
  cases owner : k.owner with
  | calling pc =>
    rw [owner] at woken
    rcases ownerStep_calling owner ran with ⟨rfl, -⟩ | ⟨called, thread, pc', stepped, rfl⟩
    · cases woken
    · have still := controllerStep_woken stepped woken
      refine ⟨?_, rfl⟩
      cases pc' with
      | stopped => rfl
      | idle | parking | unparking | stopping => exact still
  | freeing ret =>
    obtain ⟨thread, registered, task, freed, self, _⟩ := k
    obtain rfl := owner
    cases command with
    | go =>
      obtain rfl := Option.some.inj ran
      exact ⟨rfl, rfl⟩
    | wake | call | refuse => cases ran
  | add | create | storeTask | removeFailed | freeFailed | failed | waking =>
    rw [owner] at woken
    cases woken

/-- A step of the controller creates the native task, or leaves the thread where it is. -/
theorem ownerStep_self {k k' : Life} {command : OwnerCommand}
    (ran : ownerStep k command = some k') : k'.self = k.self ∨ k'.self = .setTask := by
  cases owner : k.owner with
  | calling pc =>
    rcases ownerStep_calling owner ran with ⟨-, rfl⟩ | ⟨called, thread, pc', -, rfl⟩
    · exact .inl rfl
    · exact .inl rfl
  | create =>
    obtain ⟨thread, registered, task, freed, self, _⟩ := k
    obtain rfl := owner
    cases command with
    | go => exact .inr (Option.some.inj ran ▸ rfl)
    | refuse => exact .inl (Option.some.inj ran ▸ rfl)
    | wake | call => cases ran
  | waking pc =>
    obtain ⟨thread, registered, task, freed, self, _⟩ := k
    obtain rfl := owner
    cases command with
    | go => cases pc <;> exact .inl (Option.some.inj ran ▸ rfl)
    | wake | call | refuse => cases ran
  | add | storeTask | removeFailed | freeFailed | freeing =>
    obtain ⟨thread, registered, task, freed, self, _⟩ := k
    obtain rfl := owner
    cases command with
    | go => exact .inl (Option.some.inj ran ▸ rfl)
    | wake | call | refuse => cases ran
  | failed =>
    obtain ⟨thread, registered, task, freed, self, _⟩ := k
    obtain rfl := owner
    cases command <;> cases ran

/-- A step of the thread exits, or leaves it inside the entry function. -/
theorem taskStep_ended {k k' : Life} {work : Work} (ran : taskStep k work = some k')
    (ended : k'.self.ended = true) :
    k'.owner = k.owner ∧ (k.self.ended = true ∨
      (k.self = .body .setExited ∧ ∃ spurious, work = .go spurious)) := by
  cases self : k.self with
  | body pc =>
    rcases taskStep_body self ran with ⟨rfl, -, rfl⟩ | ⟨thread, pc', stepped, rfl⟩
    · exact ⟨rfl, .inl rfl⟩
    · obtain ⟨rfl, went⟩ := (threadStep_places stepped).2.2 ended
      exact ⟨rfl, .inr ⟨rfl, went⟩⟩
  | setTask | remove =>
    obtain ⟨thread, registered, task, freed, _, owner⟩ := k
    obtain rfl := self
    cases work with
    | go spurious =>
      cases ran
      cases ended
    | check | park | setState | schedule | finish => cases ran
  | unborn | gone =>
    obtain ⟨thread, registered, task, freed, _, owner⟩ := k
    obtain rfl := self
    cases work <;> cases ran

/-- Steps that attend to the thread never wake it after it has exited. -/
theorem Heeded.step {k k' : Life × List LifeNote} {a : LifeLabel} (heeded : Heeded k)
    (attended : Attended k a) (stepped : (life.record lifeNotes).step k a = some k') :
    Heeded k' := by
  obtain ⟨moved, noted⟩ := System.record_step_eq_some.mp stepped
  obtain ⟨next, notes⟩ := k'
  obtain rfl : notes = lifeNotes k.1 a ++ k.2 := noted
  cases a with
  | task work =>
    constructor
    · intro ended
      obtain ⟨same, before | ⟨here, spurious, rfl⟩⟩ := taskStep_ended moved ended
      · exact same ▸ heeded.woken before
      · exact same ▸ attended spurious rfl here
    · intro noted
      rcases List.mem_append.mp noted with now | before
      · cases work <;> simp [lifeNotes, workNotes] at now
      · exact heeded.live before
  | owner command =>
    constructor
    · intro ended
      rcases ownerStep_self moved with same | created
      · exact (OwnerPc.woken_step moved (heeded.woken (same ▸ ended))).1
      · rw [created] at ended
        cases ended
    · intro noted
      rcases List.mem_append.mp noted with now | before
      · by_cases unblocks : k.1.owner.unblocks = true
        · rw [lifeNotes, if_pos unblocks, List.mem_singleton] at now
          have ended : k.1.self.ended = true := (LifeNote.unblocked.inj now).symm
          have woken := heeded.woken ended
          rw [OwnerPc.unblocks_of_woken woken] at unblocks
          cases unblocks
        · rw [lifeNotes, if_neg unblocks] at now
          cases now
      · exact heeded.live before

/-! ## A thread that returns of its own accord -/

/-- The run can go on to a `task_unblock` after the end of the entry function. -/
def CanWake (k : Life × List LifeNote) : Prop :=
  ∃ t, (life.record lifeNotes).Path Attended k t ∧ ¬WakesLive t

/-- The same from every state in which the controller is at a place and the thread has exited. -/
def WakesFrom (pc : OwnerPc) : Prop :=
  ∀ thread registered task freed self notes, self.ended = true → thread.exited = true →
    CanWake (⟨thread, registered, task, freed, self, pc⟩, notes)

/-- A step of the controller comes first. -/
theorem CanWake.of_step {k : Life × List LifeNote} {k' : Life} {command : OwnerCommand}
    (ran : ownerStep k.1 command = some k')
    (wakes : CanWake (k', lifeNotes k.1 (.owner command) ++ k.2)) : CanWake k := by
  obtain ⟨t, path, dead⟩ := wakes
  have attended : Attended k (.owner command) := fun _ same => by cases same
  have stepped : (life.record lifeNotes).step k (.owner command) =
      some (k', lifeNotes k.1 (.owner command) ++ k.2) :=
    System.record_step_eq_some.mpr ⟨ran, rfl⟩
  exact ⟨t, (System.Path.single attended stepped).trans path, dead⟩

/-- The last step is `task_unblock`. -/
theorem wakesFrom_of_unblocks {pc : OwnerPc} {command : OwnerCommand}
    (unblocks : pc.unblocks = true)
    (ran : ∀ thread registered task freed self,
      ∃ k', ownerStep ⟨thread, registered, task, freed, self, pc⟩ command = some k') :
    WakesFrom pc := by
  intro thread registered task freed self notes ended _
  obtain ⟨k', ran⟩ := ran thread registered task freed self
  refine CanWake.of_step ran ⟨_, .refl _, fun live => live ?_⟩
  rw [lifeNotes, if_pos unblocks, ended]
  exact List.mem_cons_self

/-- A step that leads to such a place, and leaves `exited` alone. -/
theorem WakesFrom.of_step {pc pc' : OwnerPc} {command : OwnerCommand} (wakes : WakesFrom pc')
    (ran : ∀ thread registered task freed self, thread.exited = true →
      ∃ thread' task', ownerStep ⟨thread, registered, task, freed, self, pc⟩ command =
        some ⟨thread', registered, task', freed, self, pc'⟩ ∧ thread'.exited = true) :
    WakesFrom pc := by
  intro thread registered task freed self notes ended exited
  obtain ⟨thread', task', ran, exited'⟩ := ran thread registered task freed self exited
  exact CanWake.of_step ran (wakes thread' registered task' freed self _ ended exited')

/-- In `kthread_stop` before it has woken the thread. -/
theorem wakesFrom_stopping (pc : StopPc) (before : (ControllerPc.stopping pc).woken = false) :
    WakesFrom (.calling (.stopping pc)) := by
  have unblock : WakesFrom (.calling (.stopping (.wake .unblock))) :=
    wakesFrom_of_unblocks rfl fun _ _ _ _ _ => ⟨_, (rfl : ownerStep _ (.call .go) = _)⟩
  have wake : WakesFrom (.calling (.stopping (.wake .setRunning))) :=
    unblock.of_step fun _ _ _ _ _ exited => ⟨_, _, (rfl : ownerStep _ (.call .go) = _), exited⟩
  have clear : WakesFrom (.calling (.stopping .clearShouldPark)) :=
    wake.of_step fun _ _ _ _ _ exited => ⟨_, _, (rfl : ownerStep _ (.call .go) = _), exited⟩
  cases pc with
  | setShouldStop =>
    exact clear.of_step fun _ _ _ _ _ exited =>
      ⟨_, _, (rfl : ownerStep _ (.call .go) = _), exited⟩
  | clearShouldPark => exact clear
  | wake pc =>
    cases pc with
    | setRunning => exact wake
    | unblock => exact unblock
  | loadExited | yield | loadResult => cases before

/-- Outside the functions, the controller calls `kthread_stop`. -/
theorem wakesFrom_idle : WakesFrom (.calling .idle) :=
  (wakesFrom_stopping .setShouldStop rfl).of_step fun _ _ _ _ _ exited =>
    ⟨_, _, (rfl : ownerStep _ (.call .stop) = _), exited⟩

/-- In `wake_up_process`. -/
theorem wakesFrom_waking (pc : WakePc) : WakesFrom (.waking pc) := by
  have unblock : WakesFrom (.waking .unblock) :=
    wakesFrom_of_unblocks rfl fun _ _ _ _ _ => ⟨_, (rfl : ownerStep _ .go = _)⟩
  cases pc with
  | setRunning =>
    exact unblock.of_step fun _ _ _ _ _ exited => ⟨_, _, (rfl : ownerStep _ .go = _), exited⟩
  | unblock => exact unblock

/-- In `kthread_unpark`. -/
theorem wakesFrom_unparking (pc : UnparkPc) : WakesFrom (.calling (.unparking pc)) := by
  have unblock : WakesFrom (.calling (.unparking (.wake .unblock))) :=
    wakesFrom_of_unblocks rfl fun _ _ _ _ _ => ⟨_, (rfl : ownerStep _ (.call .go) = _)⟩
  have wake : WakesFrom (.calling (.unparking (.wake .setRunning))) :=
    unblock.of_step fun _ _ _ _ _ exited => ⟨_, _, (rfl : ownerStep _ (.call .go) = _), exited⟩
  cases pc with
  | clearShouldPark =>
    exact wake.of_step fun _ _ _ _ _ exited =>
      ⟨_, _, (rfl : ownerStep _ (.call .go) = _), exited⟩
  | wake pc =>
    cases pc with
    | setRunning => exact wake
    | unblock => exact unblock

/-- In `kthread_park`, which returns at once behind its own wake-up. -/
theorem wakesFrom_parking (pc : ParkPc) : WakesFrom (.calling (.parking pc)) := by
  have unblock : WakesFrom (.calling (.parking (.wake .unblock))) :=
    wakesFrom_of_unblocks rfl fun _ _ _ _ _ => ⟨_, (rfl : ownerStep _ (.call .go) = _)⟩
  have wake : WakesFrom (.calling (.parking (.wake .setRunning))) :=
    unblock.of_step fun _ _ _ _ _ exited => ⟨_, _, (rfl : ownerStep _ (.call .go) = _), exited⟩
  have loadExited : WakesFrom (.calling (.parking .loadExited)) :=
    wakesFrom_idle.of_step fun thread _ task _ _ exited =>
      ⟨thread, task, (by simp [ownerStep, controllerStep, kthreadPark, exited, OwnerPc.next] :
        ownerStep _ (.call .go) = _), exited⟩
  have loadParked : WakesFrom (.calling (.parking .loadParked)) := by
    intro thread registered task freed self notes ended exited
    let looked (pc : ControllerPc) : Life := ⟨thread, registered, task, freed, self, .calling pc⟩
    cases parked : thread.parked with
    | true =>
      have ran : ownerStep (looked (.parking .loadParked)) (.call .go) = some (looked .idle) := by
        simp [looked, ownerStep, controllerStep, kthreadPark, parked, OwnerPc.next]
      exact CanWake.of_step ran (wakesFrom_idle _ _ _ _ _ _ ended exited)
    | false =>
      have ran : ownerStep (looked (.parking .loadParked)) (.call .go) =
          some (looked (.parking .loadExited)) := by
        simp [looked, ownerStep, controllerStep, kthreadPark, parked, OwnerPc.next]
      exact CanWake.of_step ran (loadExited _ _ _ _ _ _ ended exited)
  cases pc with
  | setShouldPark =>
    exact wake.of_step fun _ _ _ _ _ exited =>
      ⟨_, _, (rfl : ownerStep _ (.call .go) = _), exited⟩
  | wake pc =>
    cases pc with
    | setRunning => exact wake
    | unblock => exact unblock
  | loadParked => exact loadParked
  | loadExited => exact loadExited
  | yield =>
    exact loadParked.of_step fun _ _ _ _ _ exited =>
      ⟨_, _, (rfl : ownerStep _ (.call .go) = _), exited⟩

/-- Wherever the controller is when the thread exits, unless `kthread_stop` has woken it. -/
theorem wakesFrom_of_not_woken {pc : OwnerPc} (before : pc.woken = false)
    (created : pc.early = false) : WakesFrom pc := by
  cases pc with
  | storeTask =>
    exact wakesFrom_idle.of_step fun _ _ _ _ _ exited =>
      ⟨_, _, (rfl : ownerStep _ .go = _), exited⟩
  | waking pc => exact wakesFrom_waking pc
  | calling pc =>
    cases pc with
    | idle => exact wakesFrom_idle
    | parking pc => exact wakesFrom_parking pc
    | unparking pc => exact wakesFrom_unparking pc
    | stopping pc => exact wakesFrom_stopping pc before
    | stopped => cases before
  | freeing => cases before
  | add | create | removeFailed | freeFailed | failed => cases created

/-- `kthread_stop` returns and frees what it should, and no native task is woken after the end of
its entry function, in every run in which the entry function returns only when `kthread_stop` has
woken the thread. Where it returns at another moment, the controller can still wake it. -/
theorem stops_of_attended {k : Life × List LifeNote}
    (reach : (life.record lifeNotes).Reach Attended k) :
    (Stops k ∧ WakesLive k) ∧ ∀ a t, (life.record lifeNotes).step k a = some t →
      ¬Attended k a → CanWake t := by
  have living := living_of_reachable (reach.mono fun _ _ _ => trivial)
  have heeded : Heeded k := by
    refine reach.invariant Heeded ?_ fun t a u heeded attended stepped =>
      heeded.step attended stepped
    rintro ⟨k, notes⟩ ⟨rfl, rfl⟩
    exact ⟨fun ended => (by cases ended), fun noted => by cases noted⟩
  refine ⟨⟨living.stops, heeded.live⟩, fun a t stepped unattended => ?_⟩
  simp only [Attended, not_forall] at unattended
  obtain ⟨spurious, rfl, here, before⟩ := unattended
  have created : k.1.owner.early = false := by
    have unborn := living.unborn
    rw [here] at unborn
    simpa using unborn
  have wakes := wakesFrom_of_not_woken (Bool.eq_false_iff.mpr before) created
  obtain ⟨moved, -⟩ := System.record_step_eq_some.mp stepped
  obtain ⟨⟨thread, registered, task, freed, self, owner⟩, notes⟩ := k
  obtain rfl : self = .body .setExited := here
  obtain ⟨next, notes'⟩ := t
  obtain rfl := Option.some.inj moved
  exact wakes _ _ _ _ _ _ rfl rfl

/-- The thread's function returns when `kthread_stop` has woken the thread. -/
def stoppedThread : List LifeLabel :=
  [.owner .go, .owner .go, .owner .go, .task (.go false), .task (.go false), .owner (.call .stop),
    .owner (.call .go), .owner (.call .go), .owner (.call .go), .owner (.call .go),
    .task (.finish 7), .task (.go false), .task (.go false), .task (.go false),
    .owner (.call .go), .owner (.call .go), .owner .go]

/-- Whether a step attends to the thread can be decided. -/
instance decidableAttended (k : Life × List LifeNote) (a : LifeLabel) :
    Decidable (Attended k a) :=
  if here : k.1.self = .body .setExited ∧ k.1.owner.woken = false then
    match a with
    | .task (.go spurious) => .isFalse fun attended => by
      simpa [here.2] using attended spurious rfl here.1
    | .task .check | .task .park | .task (.setState _) | .task .schedule | .task (.finish _)
    | .owner _ => .isTrue fun _ same => by cases same
  else .isTrue fun _ _ exits => by simpa [exits] using here

/-- `kthread_stop` then returns what it has returned, and the record is freed. -/
theorem stoppedThread_stops : ∃ k, (life.record lifeNotes).runWith Attended (allocated, [])
      stoppedThread = some k ∧ k.1.owner = .calling (.stopped 7) ∧ k.1.freed = true ∧
        Stops k ∧ WakesLive k := by
  have ends : ((life.record lifeNotes).runWith Attended (allocated, []) stoppedThread).any
      (fun k => k.1.owner = .calling (.stopped 7) ∧ k.1.freed = true) = true := by
    decide +kernel
  obtain ⟨k, ran, last⟩ := (Option.any_eq_true _ _).mp ends
  obtain ⟨stopped, freed⟩ := of_decide_eq_true last
  have fresh : (life.record lifeNotes).init (allocated, []) := ⟨rfl, rfl⟩
  exact ⟨k, ran, stopped, freed,
    (stops_of_attended ⟨_, fresh, System.path_of_runWith ran⟩).1⟩

/-- The thread's function returns of its own accord, and then the controller calls
`kthread_stop`. -/
def finishedThread : List LifeLabel :=
  [.owner .go, .owner .go, .owner .go, .task (.go false), .task (.go false), .task (.finish 7),
    .task (.go false), .task (.go false), .task (.go false), .task (.go false),
    .owner (.call .stop), .owner (.call .go), .owner (.call .go), .owner (.call .go),
    .owner (.call .go)]

/-- `task_unblock` is called on the native task that is gone. -/
theorem finishedThread_woken : ¬∀ k, (life.record lifeNotes).Reachable k →
    Stops k ∧ WakesLive k := by
  intro always
  have ends : ((life.record lifeNotes).run (allocated, []) finishedThread).any
      (fun k => .unblocked true ∈ k.2) = true := by
    decide +kernel
  obtain ⟨k, ran, last⟩ := (Option.any_eq_true _ _).mp ends
  have woken := of_decide_eq_true last
  have fresh : (life.record lifeNotes).init (allocated, []) := ⟨rfl, rfl⟩
  exact (always k (System.reachable_of_run fresh ran)).2 woken

end Lcompat.Kthread

import Lcompat.Logic.Pool

/-!
# Kernel threads

One kernel thread of `kthread.c` and the one controller that parks, unparks and stops it. One
step is one atomic load or store, one `task_block` or one `task_unblock`. The thread's function
is any function that calls `kthread_parkme` whenever it finds `kthread_should_park` true; between
its looks it works, sets its state, schedules, parks of its own accord or returns. `current` is
the thread itself, which is in the list of threads for as long as its function executes.
-/

namespace Lcompat.Kthread

open Lcompat.Logic

/-- The values of `state`: `TASK_RUNNING` and those that make `schedule` block. -/
inductive TaskState where
  | running | interruptible
  deriving DecidableEq

/-- `struct task_struct` without its function, argument and link, and what the kernel keeps for
`task`. -/
structure TaskStruct where
  /-- `should_stop`. -/
  shouldStop : Bool
  /-- `should_park`. -/
  shouldPark : Bool
  /-- `parked`. -/
  parked : Bool
  /-- `exited`. -/
  exited : Bool
  /-- `state`. -/
  state : TaskState
  /-- `result`. -/
  result : Int
  /-- Whether a `task_unblock` of the task is pending. -/
  unblocked : Bool
  deriving DecidableEq

/-- What `kthread_run` has made when it creates the task. -/
def kthreadRun : TaskStruct where
  shouldStop := false
  shouldPark := false
  parked := false
  exited := false
  state := .running
  result := 0
  unblocked := false

/-- `task_block` of the calling task: it returns for a pending `task_unblock`, or for a reason of
the kernel's own. -/
def taskBlock {Pc : Type} (spurious : Bool) (thread : TaskStruct) (here after : Pc) :
    TaskStruct × Next Pc Unit :=
  if thread.unblocked || spurious then ({ thread with unblocked := false }, .goto after)
  else (thread, .goto here)

/-- Steps of `lcompat_schedule`. -/
inductive SchedulePc where
  | loadState | loadShouldStop | block | setRunning | yield
  deriving DecidableEq

/-- `lcompat_schedule`: block unless the state says running or the thread is to stop, and yield
otherwise. -/
def lcompatSchedule (spurious : Bool) (thread : TaskStruct) :
    SchedulePc → TaskStruct × Next SchedulePc Unit
  | .loadState => (thread, .goto (if thread.state = .running then .yield else .loadShouldStop))
  | .loadShouldStop => (thread, .goto (if thread.shouldStop then .yield else .block))
  | .block => taskBlock spurious thread .block .setRunning
  | .setRunning => ({ thread with state := .running }, .ret ())
  | .yield => (thread, .ret ())

/-- Steps of `wake_up_process`. -/
inductive WakePc where
  | setRunning | unblock
  deriving DecidableEq

/-- `wake_up_process` of a thread that `kthread_run` has returned. -/
def wakeUpProcess (thread : TaskStruct) : WakePc → TaskStruct × Next WakePc Int
  | .setRunning => ({ thread with state := .running }, .goto .unblock)
  | .unblock => ({ thread with unblocked := true }, .ret 1)

/-- Steps of `kthread_parkme`. -/
inductive ParkmePc where
  | setParked | loadShouldPark | loadShouldStop | setInterruptible | block | clearParked
  | setRunning
  deriving DecidableEq

/-- `kthread_parkme`: say that the thread is parked, block until it is to park no longer or to
stop, and take it back. -/
def kthreadParkme (spurious : Bool) (thread : TaskStruct) :
    ParkmePc → TaskStruct × Next ParkmePc Unit
  | .setParked => ({ thread with parked := true }, .goto .loadShouldPark)
  | .loadShouldPark =>
    (thread, .goto (if thread.shouldPark then .loadShouldStop else .clearParked))
  | .loadShouldStop =>
    (thread, .goto (if thread.shouldStop then .clearParked else .setInterruptible))
  | .setInterruptible => ({ thread with state := .interruptible }, .goto .block)
  | .block => taskBlock spurious thread .block .loadShouldPark
  | .clearParked => ({ thread with parked := false }, .goto .setRunning)
  | .setRunning => ({ thread with state := .running }, .ret ())

/-- Steps of `kthread_park`. -/
inductive ParkPc where
  | setShouldPark | wake (pc : WakePc) | loadParked | loadExited | yield
  deriving DecidableEq

/-- `kthread_park`: ask the thread to park, wake it, and wait until it says that it is parked or
has exited. -/
def kthreadPark (thread : TaskStruct) : ParkPc → TaskStruct × Next ParkPc Int
  | .setShouldPark => ({ thread with shouldPark := true }, .goto (.wake .setRunning))
  | .wake pc =>
    match wakeUpProcess thread pc with
    | (thread, .goto pc) => (thread, .goto (.wake pc))
    | (thread, .ret _) => (thread, .goto .loadParked)
  | .loadParked => (thread, if thread.parked then .ret 0 else .goto .loadExited)
  | .loadExited => (thread, if thread.exited then .ret 0 else .goto .yield)
  | .yield => (thread, .goto .loadParked)

/-- Steps of `kthread_unpark`. -/
inductive UnparkPc where
  | clearShouldPark | wake (pc : WakePc)
  deriving DecidableEq

/-- `kthread_unpark`: take the request back and wake the thread. -/
def kthreadUnpark (thread : TaskStruct) : UnparkPc → TaskStruct × Next UnparkPc Unit
  | .clearShouldPark => ({ thread with shouldPark := false }, .goto (.wake .setRunning))
  | .wake pc =>
    match wakeUpProcess thread pc with
    | (thread, .goto pc) => (thread, .goto (.wake pc))
    | (thread, .ret _) => (thread, .ret ())

/-- Steps of `kthread_stop`. -/
inductive StopPc where
  | setShouldStop | clearShouldPark | wake (pc : WakePc) | loadExited | yield | loadResult
  deriving DecidableEq

/-- `kthread_stop`: ask the thread to stop, wake it, wait until it has exited, and free it. -/
def kthreadStop (thread : TaskStruct) : StopPc → TaskStruct × Next StopPc Int
  | .setShouldStop => ({ thread with shouldStop := true }, .goto .clearShouldPark)
  | .clearShouldPark => ({ thread with shouldPark := false }, .goto (.wake .setRunning))
  | .wake pc =>
    match wakeUpProcess thread pc with
    | (thread, .goto pc) => (thread, .goto (.wake pc))
    | (thread, .ret _) => (thread, .goto .loadExited)
  | .loadExited => (thread, .goto (if thread.exited then .loadResult else .yield))
  | .yield => (thread, .goto .loadExited)
  | .loadResult => (thread, .ret thread.result)

/-- Where the thread is. -/
inductive ThreadPc where
  /-- In `lcompat_kthread_entry`, before its function. -/
  | entry
  /-- In its function. -/
  | function
  /-- In `lcompat_schedule`, which its function has called. -/
  | scheduling (pc : SchedulePc)
  /-- In `kthread_parkme`, which its function has called. -/
  | parking (pc : ParkmePc)
  /-- In `lcompat_kthread_entry`, with what its function has returned. -/
  | storeResult (ret : Int)
  /-- In `lcompat_kthread_entry`, about to say that it exits. -/
  | setExited
  /-- Nowhere any more. -/
  | exited
  deriving DecidableEq

/-- What the thread does next. -/
inductive Work where
  /-- Look at `kthread_should_park`, and call `kthread_parkme` when it is true. -/
  | check
  /-- Call `kthread_parkme` without looking. -/
  | park
  /-- Call `set_current_state`. -/
  | setState (state : TaskState)
  /-- Call `schedule`. -/
  | schedule
  /-- Return from the function. -/
  | finish (ret : Int)
  /-- Take the next step of what it has called, or of `lcompat_kthread_entry`. -/
  | go (spurious : Bool)
  deriving DecidableEq

/-- The next step of the thread. -/
def threadStep (thread : TaskStruct) (pc : ThreadPc) (work : Work) :
    Option (TaskStruct × ThreadPc) :=
  match pc, work with
  | .entry, .go _ => some ({ thread with state := .running }, .function)
  | .function, .check =>
    some (thread, if thread.shouldPark then .parking .setParked else .function)
  | .function, .park => some (thread, .parking .setParked)
  | .function, .setState state => some ({ thread with state := state }, .function)
  | .function, .schedule => some (thread, .scheduling .loadState)
  | .function, .finish ret => some (thread, .storeResult ret)
  | .scheduling pc, .go spurious =>
    match lcompatSchedule spurious thread pc with
    | (thread, .goto pc) => some (thread, .scheduling pc)
    | (thread, .ret _) => some (thread, .function)
  | .parking pc, .go spurious =>
    match kthreadParkme spurious thread pc with
    | (thread, .goto pc) => some (thread, .parking pc)
    | (thread, .ret _) => some (thread, .function)
  | .storeResult ret, .go _ => some ({ thread with result := ret }, .setExited)
  | .setExited, .go _ => some ({ thread with exited := true }, .exited)
  | _, _ => none

/-- Where the controller is. -/
inductive ControllerPc where
  /-- Outside the functions of the thread. -/
  | idle
  /-- In `kthread_park`. -/
  | parking (pc : ParkPc)
  /-- In `kthread_unpark`. -/
  | unparking (pc : UnparkPc)
  /-- In `kthread_stop`. -/
  | stopping (pc : StopPc)
  /-- Done with the thread, which has been freed. -/
  | stopped (ret : Int)
  deriving DecidableEq

/-- What the controller does next. -/
inductive Command where
  /-- Call `kthread_park`. -/
  | park
  /-- Call `kthread_unpark`. -/
  | unpark
  /-- Call `kthread_stop`. -/
  | stop
  /-- Take the next step of the function it is in. -/
  | go
  deriving DecidableEq

/-- The next step of the controller. -/
def controllerStep (thread : TaskStruct) (pc : ControllerPc) (command : Command) :
    Option (TaskStruct × ControllerPc) :=
  match pc, command with
  | .idle, .park => some (thread, .parking .setShouldPark)
  | .idle, .unpark => some (thread, .unparking .clearShouldPark)
  | .idle, .stop => some (thread, .stopping .setShouldStop)
  | .parking pc, .go =>
    match kthreadPark thread pc with
    | (thread, .goto pc) => some (thread, .parking pc)
    | (thread, .ret _) => some (thread, .idle)
  | .unparking pc, .go =>
    match kthreadUnpark thread pc with
    | (thread, .goto pc) => some (thread, .unparking pc)
    | (thread, .ret _) => some (thread, .idle)
  | .stopping pc, .go =>
    match kthreadStop thread pc with
    | (thread, .goto pc) => some (thread, .stopping pc)
    | (thread, .ret ret) => some (thread, .stopped ret)
  | _, _ => none

/-- A thread, where it is and where its controller is. -/
structure Parties where
  /-- The memory of the thread. -/
  thread : TaskStruct
  /-- Where the thread is. -/
  self : ThreadPc
  /-- Where the controller is. -/
  controller : ControllerPc
  deriving DecidableEq

/-- A thread that `kthread_run` has returned, and a controller that has not called anything. -/
def created : Parties := ⟨kthreadRun, .entry, .idle⟩

/-- A step of the thread or of the controller. -/
inductive Label where
  /-- The thread takes a step. -/
  | thread (work : Work)
  /-- The controller takes a step. -/
  | controller (command : Command)
  deriving DecidableEq

/-- One step. -/
def step (k : Parties) : Label → Option Parties
  | .thread work => (threadStep k.thread k.self work).map fun next =>
    { k with thread := next.1, self := next.2 }
  | .controller command => (controllerStep k.thread k.controller command).map fun next =>
    { k with thread := next.1, controller := next.2 }

/-- Every interleaving of the steps of the thread and of its controller. -/
def system : System Parties Label where
  init k := k = created
  step := step

/-- A predicate is kept by every step when it is kept by those of the thread and by those of the
controller. -/
theorem step_induction {holds : Parties → Prop} {k next : Parties} {a : Label}
    (stepped : step k a = some next)
    (self : ∀ work thread pc, a = .thread work →
      threadStep k.thread k.self work = some (thread, pc) →
        holds { k with thread := thread, self := pc })
    (controller : ∀ command thread pc, a = .controller command →
      controllerStep k.thread k.controller command = some (thread, pc) →
        holds { k with thread := thread, controller := pc }) : holds next := by
  cases a with
  | thread work =>
    obtain ⟨⟨thread, pc⟩, ran, rfl⟩ := Option.map_eq_some_iff.mp stepped
    exact self work thread pc rfl ran
  | controller command =>
    obtain ⟨⟨thread, pc⟩, ran, rfl⟩ := Option.map_eq_some_iff.mp stepped
    exact controller command thread pc rfl ran

end Lcompat.Kthread

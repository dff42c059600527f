import Lcompat.Workqueue.Model

/-!
# Tasklets

The tasklet functions of `interrupt.h` as sequences of atomic steps on one tasklet, and the
interleavings of any number of tasks that call them with the worker tasks that
`tasklet_schedule` creates. One step is one atomic operation, one task creation, or the entry or
exit of the callback. A call made by the callback is a call of another task here: the worker is
inside the callback for as long as that call takes. Created workers wait to be started by the
scheduler.
-/

namespace Lcompat.Tasklet

open Lcompat.Logic
open Lcompat.Workqueue (Env)

/-- `struct tasklet_struct`, whose callback is the caller's and is never null, and the worker
tasks that were created for it. -/
structure TaskletStruct where
  /-- `TASKLET_STATE_SCHED` of `state`. -/
  sched : Bool
  /-- `TASKLET_STATE_RUN` of `state`. -/
  run : Bool
  /-- `count`. -/
  count : Int
  /-- Created worker tasks that the scheduler has not started. -/
  workersUnstarted : Nat
  deriving DecidableEq

/-- `tasklet_setup`, and `tasklet_init`, which differ in the callback only. -/
def taskletSetup : TaskletStruct where
  sched := false
  run := false
  count := 0
  workersUnstarted := 0

/-- Steps of `lcompat_tasklet_worker`. -/
inductive WorkerPc where
  | readCount | loopSched | takeRun | clearSched | dropRun | invoke | inCallback | clearRun
  | testSched
  deriving DecidableEq

/-- `lcompat_tasklet_worker`: wait while the tasklet is disabled, take `RUN`, consume `SCHED`,
call back, and begin again if the tasklet was scheduled meanwhile. The callback is entered in
one step and left in another. -/
def taskletWorker (tasklet : TaskletStruct) : WorkerPc → TaskletStruct × Next WorkerPc Unit
  | .readCount => (tasklet, if 0 < tasklet.count then .goto .loopSched else .goto .takeRun)
  | .loopSched => (tasklet, if tasklet.sched then .goto .readCount else .ret ())
  | .takeRun =>
    if tasklet.run then (tasklet, .goto .readCount)
    else ({ tasklet with run := true }, .goto .clearSched)
  | .clearSched =>
    if tasklet.sched then ({ tasklet with sched := false }, .goto .invoke)
    else (tasklet, .goto .dropRun)
  | .dropRun => ({ tasklet with run := false }, .ret ())
  | .invoke => (tasklet, .goto .inCallback)
  | .inCallback => (tasklet, .goto .clearRun)
  | .clearRun => ({ tasklet with run := false }, .goto .testSched)
  | .testSched => (tasklet, if tasklet.sched then .goto .readCount else .ret ())

/-- Steps of `tasklet_schedule`. -/
inductive SchedulePc where
  | setSched | create | undoSched
  deriving DecidableEq

/-- `tasklet_schedule`: set `SCHED` and create a worker, unless it is set already. -/
def taskletSchedule (env : Env) (tasklet : TaskletStruct) :
    SchedulePc → TaskletStruct × Next SchedulePc Unit
  | .setSched =>
    if tasklet.sched then (tasklet, .ret ())
    else ({ tasklet with sched := true }, .goto .create)
  | .create =>
    if env.created then
      ({ tasklet with workersUnstarted := tasklet.workersUnstarted + 1 }, .ret ())
    else (tasklet, .goto .undoSched)
  | .undoSched => ({ tasklet with sched := false }, .ret ())

/-- Steps of `tasklet_disable`. -/
inductive DisablePc where
  | inc | spin
  deriving DecidableEq

/-- `tasklet_disable`: count the call, then wait while `RUN` is set. -/
def taskletDisable (tasklet : TaskletStruct) : DisablePc → TaskletStruct × Next DisablePc Unit
  | .inc => ({ tasklet with count := tasklet.count + 1 }, .goto .spin)
  | .spin => (tasklet, if tasklet.run then .goto .spin else .ret ())

/-- `tasklet_enable`, which is one step. -/
def taskletEnable (tasklet : TaskletStruct) : TaskletStruct :=
  { tasklet with count := tasklet.count - 1 }

/-- Steps of `tasklet_kill`. -/
inductive KillPc where
  | inc | clearSched | spin | dec
  deriving DecidableEq

/-- `tasklet_kill`: disable the tasklet, drop `SCHED`, wait while `RUN` is set, and enable it
again. -/
def taskletKill (tasklet : TaskletStruct) : KillPc → TaskletStruct × Next KillPc Unit
  | .inc => ({ tasklet with count := tasklet.count + 1 }, .goto .clearSched)
  | .clearSched => ({ tasklet with sched := false }, .goto .spin)
  | .spin => (tasklet, if tasklet.run then .goto .spin else .goto .dec)
  | .dec => ({ tasklet with count := tasklet.count - 1 }, .ret ())

/-- What a task is doing. -/
inductive Task where
  /-- Outside the functions of the tasklet. -/
  | idle
  /-- In `tasklet_schedule`. -/
  | scheduling (pc : SchedulePc)
  /-- In `tasklet_disable`. -/
  | disabling (pc : DisablePc)
  /-- In `tasklet_enable`. -/
  | enabling
  /-- In `tasklet_kill`. -/
  | killing (pc : KillPc)
  /-- A worker of the tasklet. -/
  | worker (pc : WorkerPc)
  deriving DecidableEq

/-- What a task does next. -/
inductive Choice where
  /-- Call `tasklet_schedule`. -/
  | schedule
  /-- Call `tasklet_disable`. -/
  | disable
  /-- Call `tasklet_enable`. -/
  | enable
  /-- Call `tasklet_kill`. -/
  | kill
  /-- Begin as a worker task that was created. -/
  | begin
  /-- Take the next step of the function it is in. -/
  | go (env : Env)
  deriving DecidableEq

/-- The next step of a task. -/
def exec (tasklet : TaskletStruct) (task : Task) (choice : Choice) :
    Option (TaskletStruct × Task) :=
  match task, choice with
  | .idle, .schedule => some (tasklet, .scheduling .setSched)
  | .idle, .disable => some (tasklet, .disabling .inc)
  | .idle, .enable => some (tasklet, .enabling)
  | .idle, .kill => some (tasklet, .killing .inc)
  | .idle, .begin =>
    if 0 < tasklet.workersUnstarted then
      some ({ tasklet with workersUnstarted := tasklet.workersUnstarted - 1 },
        .worker .readCount)
    else none
  | .scheduling pc, .go env =>
    match taskletSchedule env tasklet pc with
    | (tasklet, .goto pc) => some (tasklet, .scheduling pc)
    | (tasklet, .ret _) => some (tasklet, .idle)
  | .disabling pc, .go _ =>
    match taskletDisable tasklet pc with
    | (tasklet, .goto pc) => some (tasklet, .disabling pc)
    | (tasklet, .ret _) => some (tasklet, .idle)
  | .enabling, .go _ => some (taskletEnable tasklet, .idle)
  | .killing pc, .go _ =>
    match taskletKill tasklet pc with
    | (tasklet, .goto pc) => some (tasklet, .killing pc)
    | (tasklet, .ret _) => some (tasklet, .idle)
  | .worker pc, .go _ =>
    match taskletWorker tasklet pc with
    | (tasklet, .goto pc) => some (tasklet, .worker pc)
    | (tasklet, .ret _) => some (tasklet, .idle)
  | _, _ => none

/-- What a step of a task can be. -/
inductive Moved (tasklet : TaskletStruct) : Task → Choice → TaskletStruct → Task → Prop
  /-- `tasklet_schedule` is called. -/
  | schedule : Moved tasklet .idle .schedule tasklet (.scheduling .setSched)
  /-- `tasklet_schedule` finds `SCHED` set. -/
  | scheduled (env : Env) (set : tasklet.sched = true) :
      Moved tasklet (.scheduling .setSched) (.go env) tasklet .idle
  /-- `tasklet_schedule` sets `SCHED`. -/
  | setSched (env : Env) (clear : tasklet.sched = false) :
      Moved tasklet (.scheduling .setSched) (.go env) { tasklet with sched := true }
        (.scheduling .create)
  /-- `tasklet_schedule` creates a worker. -/
  | create (env : Env) (created : env.created = true) :
      Moved tasklet (.scheduling .create) (.go env)
        { tasklet with workersUnstarted := tasklet.workersUnstarted + 1 } .idle
  /-- `tasklet_schedule` gets no worker. -/
  | createFailed (env : Env) (failed : env.created = false) :
      Moved tasklet (.scheduling .create) (.go env) tasklet (.scheduling .undoSched)
  /-- `tasklet_schedule` gives up. -/
  | undoSched (env : Env) :
      Moved tasklet (.scheduling .undoSched) (.go env) { tasklet with sched := false } .idle
  /-- `tasklet_disable` is called. -/
  | disable : Moved tasklet .idle .disable tasklet (.disabling .inc)
  /-- `tasklet_disable` counts the call. -/
  | disableInc (env : Env) :
      Moved tasklet (.disabling .inc) (.go env) { tasklet with count := tasklet.count + 1 }
        (.disabling .spin)
  /-- `tasklet_disable` waits for a worker. -/
  | disableSpin (env : Env) (held : tasklet.run = true) :
      Moved tasklet (.disabling .spin) (.go env) tasklet (.disabling .spin)
  /-- `tasklet_disable` sees `RUN` clear and returns. -/
  | disabled (env : Env) (free : tasklet.run = false) :
      Moved tasklet (.disabling .spin) (.go env) tasklet .idle
  /-- `tasklet_enable` is called. -/
  | enable : Moved tasklet .idle .enable tasklet .enabling
  /-- `tasklet_enable` takes its call back. -/
  | enabled (env : Env) :
      Moved tasklet .enabling (.go env) { tasklet with count := tasklet.count - 1 } .idle
  /-- `tasklet_kill` is called. -/
  | kill : Moved tasklet .idle .kill tasklet (.killing .inc)
  /-- `tasklet_kill` disables the tasklet. -/
  | killInc (env : Env) :
      Moved tasklet (.killing .inc) (.go env) { tasklet with count := tasklet.count + 1 }
        (.killing .clearSched)
  /-- `tasklet_kill` clears `SCHED`. -/
  | killClear (env : Env) :
      Moved tasklet (.killing .clearSched) (.go env) { tasklet with sched := false }
        (.killing .spin)
  /-- `tasklet_kill` waits for a worker. -/
  | killSpin (env : Env) (held : tasklet.run = true) :
      Moved tasklet (.killing .spin) (.go env) tasklet (.killing .spin)
  /-- `tasklet_kill` sees `RUN` clear. -/
  | killSeen (env : Env) (free : tasklet.run = false) :
      Moved tasklet (.killing .spin) (.go env) tasklet (.killing .dec)
  /-- `tasklet_kill` enables the tasklet and returns. -/
  | killed (env : Env) :
      Moved tasklet (.killing .dec) (.go env) { tasklet with count := tasklet.count - 1 } .idle
  /-- A created worker begins. -/
  | begin (waiting : 0 < tasklet.workersUnstarted) :
      Moved tasklet .idle .begin
        { tasklet with workersUnstarted := tasklet.workersUnstarted - 1 } (.worker .readCount)
  /-- A worker finds the tasklet disabled. -/
  | waits (env : Env) (off : 0 < tasklet.count) :
      Moved tasklet (.worker .readCount) (.go env) tasklet (.worker .loopSched)
  /-- A worker finds the tasklet enabled. -/
  | proceeds (env : Env) (on : tasklet.count ≤ 0) :
      Moved tasklet (.worker .readCount) (.go env) tasklet (.worker .takeRun)
  /-- A worker of a disabled tasklet finds `SCHED` set. -/
  | again (env : Env) (set : tasklet.sched = true) :
      Moved tasklet (.worker .loopSched) (.go env) tasklet (.worker .readCount)
  /-- A worker of a disabled tasklet finds `SCHED` clear and returns. -/
  | leaves (env : Env) (clear : tasklet.sched = false) :
      Moved tasklet (.worker .loopSched) (.go env) tasklet .idle
  /-- A worker finds `RUN` set. -/
  | fails (env : Env) (held : tasklet.run = true) :
      Moved tasklet (.worker .takeRun) (.go env) tasklet (.worker .readCount)
  /-- A worker sets `RUN`. -/
  | takes (env : Env) (free : tasklet.run = false) :
      Moved tasklet (.worker .takeRun) (.go env) { tasklet with run := true }
        (.worker .clearSched)
  /-- A worker consumes `SCHED`. -/
  | consumes (env : Env) (set : tasklet.sched = true) :
      Moved tasklet (.worker .clearSched) (.go env) { tasklet with sched := false }
        (.worker .invoke)
  /-- A worker finds `SCHED` consumed. -/
  | finds (env : Env) (clear : tasklet.sched = false) :
      Moved tasklet (.worker .clearSched) (.go env) tasklet (.worker .dropRun)
  /-- A worker that does not call back clears `RUN` and returns. -/
  | drops (env : Env) :
      Moved tasklet (.worker .dropRun) (.go env) { tasklet with run := false } .idle
  /-- A worker enters the callback. -/
  | enters (env : Env) : Moved tasklet (.worker .invoke) (.go env) tasklet (.worker .inCallback)
  /-- A worker leaves the callback. -/
  | exits (env : Env) : Moved tasklet (.worker .inCallback) (.go env) tasklet (.worker .clearRun)
  /-- A worker that has called back clears `RUN`. -/
  | releases (env : Env) :
      Moved tasklet (.worker .clearRun) (.go env) { tasklet with run := false }
        (.worker .testSched)
  /-- A worker that has called back finds `SCHED` set. -/
  | repeats (env : Env) (set : tasklet.sched = true) :
      Moved tasklet (.worker .testSched) (.go env) tasklet (.worker .readCount)
  /-- A worker that has called back finds `SCHED` clear and returns. -/
  | returns (env : Env) (clear : tasklet.sched = false) :
      Moved tasklet (.worker .testSched) (.go env) tasklet .idle

/-- Every step of `lcompat_tasklet_worker` is one of these. -/
theorem taskletWorker_moved (env : Env) (tasklet : TaskletStruct) (pc : WorkerPc) :
    match taskletWorker tasklet pc with
    | (tasklet', .goto pc') => Moved tasklet (.worker pc) (.go env) tasklet' (.worker pc')
    | (tasklet', .ret _) => Moved tasklet (.worker pc) (.go env) tasklet' .idle := by
  cases pc with
  | readCount =>
    by_cases off : 0 < tasklet.count
    · simpa [taskletWorker, off] using .waits env off
    · simpa [taskletWorker, off] using .proceeds env (not_lt.mp off)
  | loopSched =>
    cases sched : tasklet.sched
    · simpa [taskletWorker, sched] using .leaves env sched
    · simpa [taskletWorker, sched] using .again env sched
  | takeRun =>
    cases run : tasklet.run
    · simpa [taskletWorker, run] using .takes env run
    · simpa [taskletWorker, run] using .fails env run
  | clearSched =>
    cases sched : tasklet.sched
    · simpa [taskletWorker, sched] using .finds env sched
    · simpa [taskletWorker, sched] using .consumes env sched
  | dropRun => exact .drops env
  | invoke => exact .enters env
  | inCallback => exact .exits env
  | clearRun => exact .releases env
  | testSched =>
    cases sched : tasklet.sched
    · simpa [taskletWorker, sched] using .returns env sched
    · simpa [taskletWorker, sched] using .repeats env sched

/-- Every step of `tasklet_schedule` is one of these. -/
theorem taskletSchedule_moved (env : Env) (tasklet : TaskletStruct) (pc : SchedulePc) :
    match taskletSchedule env tasklet pc with
    | (tasklet', .goto pc') => Moved tasklet (.scheduling pc) (.go env) tasklet' (.scheduling pc')
    | (tasklet', .ret _) => Moved tasklet (.scheduling pc) (.go env) tasklet' .idle := by
  cases pc with
  | setSched =>
    cases sched : tasklet.sched
    · simpa [taskletSchedule, sched] using .setSched env sched
    · simpa [taskletSchedule, sched] using .scheduled env sched
  | create =>
    cases created : env.created
    · simpa [taskletSchedule, created] using .createFailed env created
    · simpa [taskletSchedule, created] using .create env created
  | undoSched => exact .undoSched env

/-- Every step of `tasklet_disable` is one of these. -/
theorem taskletDisable_moved (env : Env) (tasklet : TaskletStruct) (pc : DisablePc) :
    match taskletDisable tasklet pc with
    | (tasklet', .goto pc') => Moved tasklet (.disabling pc) (.go env) tasklet' (.disabling pc')
    | (tasklet', .ret _) => Moved tasklet (.disabling pc) (.go env) tasklet' .idle := by
  cases pc with
  | inc => exact .disableInc env
  | spin =>
    cases run : tasklet.run
    · simpa [taskletDisable, run] using .disabled env run
    · simpa [taskletDisable, run] using .disableSpin env run

/-- Every step of `tasklet_kill` is one of these. -/
theorem taskletKill_moved (env : Env) (tasklet : TaskletStruct) (pc : KillPc) :
    match taskletKill tasklet pc with
    | (tasklet', .goto pc') => Moved tasklet (.killing pc) (.go env) tasklet' (.killing pc')
    | (tasklet', .ret _) => Moved tasklet (.killing pc) (.go env) tasklet' .idle := by
  cases pc with
  | inc => exact .killInc env
  | clearSched => exact .killClear env
  | spin =>
    cases run : tasklet.run
    · simpa [taskletKill, run] using .killSeen env run
    · simpa [taskletKill, run] using .killSpin env run
  | dec => exact .killed env

/-- Every step of a task is one of these. -/
theorem exec_moved {tasklet tasklet' : TaskletStruct} {task task' : Task} {choice : Choice}
    (ran : exec tasklet task choice = some (tasklet', task')) :
    Moved tasklet task choice tasklet' task' := by
  cases task with
  | idle =>
    cases choice with
    | schedule | disable | enable | kill =>
      obtain ⟨rfl, rfl⟩ : tasklet = tasklet' ∧ _ = task' := by simpa [exec] using ran
      constructor
    | begin =>
      obtain ⟨waiting, rfl, rfl⟩ : _ ∧ _ = tasklet' ∧ _ = task' := by simpa [exec] using ran
      exact .begin waiting
    | go env => simp [exec] at ran
  | scheduling pc =>
    cases choice with
    | go env =>
      have moved := taskletSchedule_moved env tasklet pc
      rcases went : taskletSchedule env tasklet pc with ⟨after, pc' | result⟩ <;>
        simp only [exec, went, Option.some.injEq, Prod.mk.injEq] at ran <;>
        obtain ⟨rfl, rfl⟩ := ran <;>
        simpa only [went] using moved
    | schedule | disable | enable | kill | begin => simp [exec] at ran
  | disabling pc =>
    cases choice with
    | go env =>
      have moved := taskletDisable_moved env tasklet pc
      rcases went : taskletDisable tasklet pc with ⟨after, pc' | result⟩ <;>
        simp only [exec, went, Option.some.injEq, Prod.mk.injEq] at ran <;>
        obtain ⟨rfl, rfl⟩ := ran <;>
        simpa only [went] using moved
    | schedule | disable | enable | kill | begin => simp [exec] at ran
  | enabling =>
    cases choice with
    | go env =>
      obtain ⟨rfl, rfl⟩ : taskletEnable tasklet = tasklet' ∧ _ = task' := by
        simpa [exec] using ran
      exact .enabled env
    | schedule | disable | enable | kill | begin => simp [exec] at ran
  | killing pc =>
    cases choice with
    | go env =>
      have moved := taskletKill_moved env tasklet pc
      rcases went : taskletKill tasklet pc with ⟨after, pc' | result⟩ <;>
        simp only [exec, went, Option.some.injEq, Prod.mk.injEq] at ran <;>
        obtain ⟨rfl, rfl⟩ := ran <;>
        simpa only [went] using moved
    | schedule | disable | enable | kill | begin => simp [exec] at ran
  | worker pc =>
    cases choice with
    | go env =>
      have moved := taskletWorker_moved env tasklet pc
      rcases went : taskletWorker tasklet pc with ⟨after, pc' | result⟩ <;>
        simp only [exec, went, Option.some.injEq, Prod.mk.injEq] at ran <;>
        obtain ⟨rfl, rfl⟩ := ran <;>
        simpa only [went] using moved
    | schedule | disable | enable | kill | begin => simp [exec] at ran

/-- A worker between setting `RUN` and clearing it. -/
@[grind]
def WorkerPc.holds : WorkerPc → Bool
  | .clearSched | .dropRun | .invoke | .inCallback | .clearRun => true
  | .readCount | .loopSched | .takeRun | .testSched => false

/-- A task that is such a worker. -/
@[grind]
def Task.holds : Task → Bool
  | .worker pc => pc.holds
  | .idle | .scheduling _ | .disabling _ | .enabling | .killing _ => false

/-- A task that is outside all functions, schedules the tasklet or works for it. -/
@[grind]
def Task.plain : Task → Bool
  | .idle | .scheduling _ | .worker _ => true
  | .disabling _ | .enabling | .killing _ => false

variable {Id : Type} [DecidableEq Id]

/-- `RUN` is a lock. -/
structure Owned (tasklet : TaskletStruct) (threads : Id → Task) : Prop where
  /-- It is set while a worker holds it. -/
  held : ∀ t, (threads t).holds = true → tasklet.run = true
  /-- One worker at most holds it. -/
  one : ∀ t u, (threads t).holds = true → (threads u).holds = true → t = u
  /-- It is set only by a worker that holds it. -/
  owner : tasklet.run = true → ∃ t, (threads t).holds = true

/-- Every step keeps `RUN` a lock. -/
theorem Owned.step {tasklet tasklet' : TaskletStruct} {threads : Id → Task} {t : Id}
    {choice : Choice} {task : Task} (owned : Owned tasklet threads)
    (moved : Moved tasklet (threads t) choice tasklet' task) :
    Owned tasklet' (Function.update threads t task) := by
  obtain ⟨held, one, owner⟩ := owned
  generalize here : threads t = before at moved
  cases moved <;> refine ⟨by grind -ring -linarith, by grind -ring -linarith, ?_⟩ <;>
    rw [Pool.exists_update] <;> grind -ring -linarith

/-- One tasklet and the tasks that use it. -/
abbrev Tasks (Id : Type) := Pool Id TaskletStruct Task

/-- A tasklet that has just been set up, and nobody inside a function of it. -/
structure Fresh (p : Tasks Id) : Prop where
  /-- The tasklet is new. -/
  tasklet : p.shared = taskletSetup
  /-- No call is under way. -/
  idle : ∀ t, p.threads t = .idle

/-- Every interleaving of the steps of the tasks from a fresh tasklet. -/
def tasks : System (Tasks Id) (Id × Choice) := Pool.system exec Fresh

/-- A step that calls `tasklet_schedule`, or goes on. -/
def Plain (_ : Tasks Id) (a : Id × Choice) : Prop :=
  a.2 ≠ .disable ∧ a.2 ≠ .enable ∧ a.2 ≠ .kill

/-- Whether a step is plain is decided by evaluation. -/
instance decidablePlain (p : Tasks Id) (a : Id × Choice) : Decidable (Plain p a) :=
  inferInstanceAs (Decidable (a.2 ≠ .disable ∧ a.2 ≠ .enable ∧ a.2 ≠ .kill))

/-- A tasklet that has only been scheduled. -/
structure Untouched (tasklet : TaskletStruct) (threads : Id → Task) : Prop where
  /-- `RUN` is a lock. -/
  owned : Owned tasklet threads
  /-- Tasks only schedule and work. -/
  plain : ∀ u, (threads u).plain = true
  /-- The tasklet is enabled. -/
  count : tasklet.count = 0

omit [DecidableEq Id] in
/-- A fresh tasklet. -/
theorem Fresh.untouched {p : Tasks Id} (fresh : Fresh p) : Untouched p.shared p.threads := by
  have idle := fresh.idle
  refine ⟨⟨?_, ?_, ?_⟩, ?_, ?_⟩ <;>
    simp [idle, fresh.tasklet, taskletSetup, Task.holds, Task.plain]

/-- Every plain step leaves the tasklet untouched. -/
theorem Untouched.step {u : Id} {tasklet tasklet' : TaskletStruct} {threads : Id → Task}
    {choice : Choice} {task : Task} (untouched : Untouched tasklet threads)
    (plain : choice ≠ .disable ∧ choice ≠ .enable ∧ choice ≠ .kill)
    (moved : Moved tasklet (threads u) choice tasklet' task) :
    Untouched tasklet' (Function.update threads u task) := by
  have locked := untouched.owned.step moved
  obtain ⟨owned, known, count⟩ := untouched
  generalize here : threads u = before at moved
  cases moved <;> refine ⟨locked, ?_, ?_⟩ <;> grind -ring -linarith

/-- A client, room for two workers, and a tasklet that was set up. -/
def fresh : Tasks (Fin 3) := ⟨taskletSetup, fun _ => .idle⟩

/-- The tasklet is fresh. -/
theorem fresh_fresh : Fresh fresh := ⟨rfl, fun _ => rfl⟩

/-- Steps of a task whose native calls succeed. -/
def go (steps : Nat) (t : Fin 3) : List (Fin 3 × Choice) :=
  List.replicate steps (t, .go ⟨true, 0⟩)

/-- A call of `tasklet_schedule` by the client that finds `SCHED` clear, from its beginning to
its end. -/
def schedule : List (Fin 3 × Choice) := (0, .schedule) :: go 2 0

end Lcompat.Tasklet

import Lcompat.Tasklet.Model

/-!
# Disabling a tasklet

What one `tasklet_disable` call achieves beside any number of `tasklet_schedule` calls and
workers. A worker looks at the count before it takes `RUN`, and the call counts itself before it
looks at `RUN`, so a worker that has looked and not taken `RUN` yet is seen by neither. Until the
tasklet is enabled again the callback stays out exactly when the call returned while no worker
stood there.
-/

namespace Lcompat.Tasklet

open Lcompat.Logic

/-- A worker that has seen the tasklet enabled and can still call back. -/
@[grind]
def WorkerPc.passed : WorkerPc → Bool
  | .takeRun | .clearSched | .dropRun | .invoke | .inCallback | .clearRun => true
  | .readCount | .loopSched | .testSched => false

/-- A task that is such a worker. -/
@[grind]
def Task.passed : Task → Bool
  | .worker pc => pc.passed
  | .idle | .scheduling _ | .disabling _ | .enabling | .killing _ => false

variable {Id : Type} [DecidableEq Id]

/-- One task calls `tasklet_disable`, as the first one, and returns from it. -/
structure DisableCall (t : Id) (before last after : Tasks Id) : Prop where
  /-- The tasklet has only been scheduled before. -/
  reached : tasks.Reach Plain before
  /-- The call begins, and other tasks go on. -/
  called : ∃ begun, Pool.step exec before (t, .disable) = some begun ∧ tasks.Path Plain begun last
  /-- The call is about to look at `RUN`. -/
  waiting : last.threads t = .disabling .spin
  /-- The call sees `RUN` clear and returns. -/
  returned : ∃ env, Pool.step exec last (t, .go env) = some after ∧ after.threads t = .idle

/-- A tasklet that one task is disabling. -/
structure Disabling (t : Id) (tasklet : TaskletStruct) (threads : Id → Task) : Prop where
  /-- `RUN` is a lock. -/
  owned : Owned tasklet threads
  /-- Other tasks only schedule and work. -/
  plain : ∀ u, u ≠ t → (threads u).plain = true
  /-- The count tells how far the task has come. -/
  count : threads t = .disabling .inc ∧ tasklet.count = 0 ∨ threads t = .disabling .spin ∧
    tasklet.count = 1 ∨ (threads t).plain = true

/-- Every plain step keeps the count. -/
theorem Disabling.step {t u : Id} {tasklet tasklet' : TaskletStruct} {threads : Id → Task}
    {choice : Choice} {task : Task} (disabling : Disabling t tasklet threads)
    (plain : choice ≠ .disable ∧ choice ≠ .enable ∧ choice ≠ .kill)
    (moved : Moved tasklet (threads u) choice tasklet' task) :
    Disabling t tasklet' (Function.update threads u task) := by
  have locked := disabling.owned.step moved
  obtain ⟨owned, others, count⟩ := disabling
  generalize here : threads u = before at moved
  cases moved <;> refine ⟨locked, ?_, ?_⟩ <;> grind -ring -linarith

/-- A call that is about to look at `RUN` has counted itself, and nobody else disables the
tasklet. -/
theorem DisableCall.disabling {t : Id} {before last after : Tasks Id}
    (call : DisableCall t before last after) : Disabling t last.shared last.threads := by
  obtain ⟨owned, plain, count⟩ : Untouched before.shared before.threads :=
    call.reached.invariant (fun p => Untouched p.shared p.threads)
      (fun _ fresh => Fresh.untouched fresh) fun p a q untouched ok stepped => by
        obtain ⟨shared, next, ran, rfl⟩ := Pool.step_eq_some.mp stepped
        exact untouched.step ok (exec_moved ran)
  obtain ⟨begun, stepped, path⟩ := call.called
  refine path.invariant (fun p => Disabling t p.shared p.threads) ?_
    fun p a q disabling ok stepped => by
    obtain ⟨shared, next, ran, rfl⟩ := Pool.step_eq_some.mp stepped
    exact disabling.step ok (exec_moved ran)
  obtain ⟨shared, next, ran, rfl⟩ := Pool.step_eq_some.mp stepped
  have locked := owned.step (exec_moved ran)
  obtain ⟨rfl, rfl⟩ : before.shared = shared ∧ Task.disabling .inc = next := by
    cases here : before.threads t <;> simp [here, exec] at ran
    simpa using ran
  exact ⟨locked, fun u apart => by simpa [Function.update_of_ne apart] using plain u,
    .inl ⟨by simp, count⟩⟩

/-- The tasklet is disabled, and no worker can still call back. -/
structure Off (tasklet : TaskletStruct) (threads : Id → Task) : Prop where
  /-- Tasks only schedule and work. -/
  plain : ∀ u, (threads u).plain = true
  /-- The tasklet is disabled. -/
  count : 0 < tasklet.count
  /-- No worker has got past the count. -/
  stopped : ∀ u, (threads u).passed = false

/-- Nobody calls back while the tasklet is disabled. -/
theorem Off.step {u : Id} {tasklet tasklet' : TaskletStruct} {threads : Id → Task}
    {choice : Choice} {task : Task} (off : Off tasklet threads)
    (plain : choice ≠ .disable ∧ choice ≠ .enable ∧ choice ≠ .kill)
    (moved : Moved tasklet (threads u) choice tasklet' task) :
    Off tasklet' (Function.update threads u task) := by
  obtain ⟨known, count, stopped⟩ := off
  generalize here : threads u = before at moved
  cases moved <;> constructor <;> grind -ring -linarith

/-- A worker that holds `RUN` or is about to take it is past the count. -/
theorem Task.passed_iff (task : Task) :
    task.passed = true ↔ task = .worker .takeRun ∨ task.holds = true := by
  cases task with
  | worker pc => cases pc <;> simp [Task.passed, WorkerPc.passed, Task.holds, WorkerPc.holds]
  | idle | scheduling | disabling | enabling | killing => simp [Task.passed, Task.holds]

/-- The worker can come to call back before the tasklet is enabled. -/
def MayCall (p : Tasks Id) : Prop :=
  ∃ q, tasks.Path Plain p q ∧ ∃ u, q.threads u = .worker .inCallback

/-- The callback may be entered when it may be after one more plain step of a task. -/
theorem MayCall.of_step {p : Tasks Id} {u : Id} {choice : Choice} {tasklet : TaskletStruct}
    {task : Task} (plain : Plain p (u, choice))
    (ran : exec p.shared (p.threads u) choice = some (tasklet, task))
    (onward : MayCall ⟨tasklet, Function.update p.threads u task⟩) : MayCall p := by
  have stepped : Pool.step exec p (u, choice) =
      some ⟨tasklet, Function.update p.threads u task⟩ :=
    Pool.step_eq_some.mpr ⟨tasklet, task, ran, rfl⟩
  obtain ⟨q, path, inside⟩ := onward
  exact ⟨q, (System.Path.single plain stepped).trans path, inside⟩

/-- The callback may be entered when it may be after a worker's next step. -/
theorem MayCall.of_worker {p : Tasks Id} {u : Id} {pc pc' : WorkerPc} {tasklet : TaskletStruct}
    (here : p.threads u = .worker pc) (went : taskletWorker p.shared pc = (tasklet, .goto pc'))
    (onward : ∀ q : Tasks Id, q.threads u = .worker pc' → q.shared = tasklet → MayCall q) :
    MayCall p := by
  have ran : exec p.shared (p.threads u) (.go ⟨true, 0⟩) = some (tasklet, .worker pc') := by
    simp [here, exec, went]
  exact .of_step (by simp [Plain]) ran (onward _ (by simp) rfl)

/-- A worker that is about to take a free `RUN` may call back when `SCHED` is set. -/
theorem MayCall.of_takeRun {p : Tasks Id} {u : Id} (here : p.threads u = .worker .takeRun)
    (free : p.shared.run = false) (set : p.shared.sched = true) : MayCall p := by
  have takes : taskletWorker p.shared .takeRun =
      ({ p.shared with run := true }, .goto .clearSched) := by simp [taskletWorker, free]
  refine .of_worker here takes fun q here same => ?_
  have consumes : taskletWorker q.shared .clearSched =
      ({ q.shared with sched := false }, .goto .invoke) := by simp [taskletWorker, same, set]
  exact .of_worker here consumes fun q here _ => .of_worker here rfl fun q here _ =>
    ⟨q, .refl q, u, here⟩

/-- A worker that is about to take a free `RUN` may call back when another task can schedule the
tasklet. -/
theorem MayCall.of_idle {p : Tasks Id} {t u : Id} (idle : p.threads t = .idle)
    (here : p.threads u = .worker .takeRun) (free : p.shared.run = false) : MayCall p := by
  cases set : p.shared.sched with
  | true => exact .of_takeRun here free set
  | false =>
    have apart : u ≠ t := fun same => by simp [same, idle] at here
    have called : exec p.shared (p.threads t) .schedule =
        some (p.shared, .scheduling .setSched) := by
      simp [idle, exec]
    have sets : exec p.shared (Function.update p.threads t (.scheduling .setSched) t)
        (.go ⟨true, 0⟩) = some ({ p.shared with sched := true }, .scheduling .create) := by
      simp [exec, taskletSchedule, set]
    refine .of_step (by simp [Plain]) called (.of_step (by simp [Plain]) sets ?_)
    exact .of_takeRun (u := u) (by simpa [Function.update_of_ne apart] using here) free rfl

/-- Until the tasklet is enabled again, the callback is not executing and is not started after
`tasklet_disable` has returned, if and only if the call took its last look at `RUN` while no
worker stood between its look at the count and setting `RUN`. -/
theorem tasklet_disable_iff {t : Id} {before last after : Tasks Id}
    (call : DisableCall t before last after) :
    (∀ q, tasks.Path Plain after q → ∀ u, q.threads u ≠ .worker .inCallback) ↔
      ∀ u, last.threads u ≠ .worker .takeRun := by
  obtain ⟨owned, plain, count⟩ := call.disabling
  obtain ⟨env, stepped, idle⟩ := call.returned
  have waiting := call.waiting
  obtain ⟨shared, next, ran, rfl⟩ := Pool.step_eq_some.mp stepped
  obtain rfl : next = .idle := by simpa using idle
  obtain ⟨free, rfl⟩ : last.shared.run = false ∧ last.shared = shared := by
    cases held : last.shared.run <;> simp [waiting, exec, taskletDisable, held] at ran
    exact ⟨rfl, ran⟩
  have unheld : ∀ u, (last.threads u).holds = false := fun u => by
    by_contra holds
    simp [owned.held u (by simpa using holds)] at free
  constructor
  · intro never u here
    have apart : u ≠ t := fun same => by simp [same, waiting] at here
    have still : (⟨last.shared, Function.update last.threads t .idle⟩ : Tasks Id).threads u =
        .worker .takeRun := by simpa [Function.update_of_ne apart] using here
    obtain ⟨q, path, v, inside⟩ := MayCall.of_idle idle still free
    exact never q path v inside
  · intro clear q path u inside
    have off : Off last.shared (Function.update last.threads t .idle) := by
      refine ⟨fun u => ?_, ?_, fun u => ?_⟩
      · by_cases same : u = t
        · simp [same, Task.plain]
        · simpa [Function.update_of_ne same] using plain u same
      · simp [waiting, Task.plain] at count
        omega
      · by_cases same : u = t
        · simp [same, Task.passed]
        · rw [Function.update_of_ne same]
          by_contra passed
          rcases (Task.passed_iff _).mp (by simpa using passed) with here | holds
          · exact clear u here
          · simp [unheld u] at holds
    have later : Off q.shared q.threads :=
      path.invariant (fun p => Off p.shared p.threads) off fun p a q off ok stepped => by
        obtain ⟨shared, next, ran, rfl⟩ := Pool.step_eq_some.mp stepped
        exact off.step ok (exec_moved ran)
    have stopped := later.stopped u
    simp [inside, Task.passed, WorkerPc.passed] at stopped

/-- A call of `tasklet_disable` by the client: what comes before it, what comes between the call
and its last step, what comes afterwards, and where the tasks stand before the last step and at
the end. -/
def disabling (earlier during later : List (Fin 3 × Choice)) : Option (List Task × List Task) :=
  (tasks.runWith Plain fresh earlier).bind fun before =>
    (Pool.step exec before (0, .disable)).bind fun begun =>
      (tasks.runWith Plain begun during).bind fun last =>
        (Pool.step exec last (0, .go ⟨true, 0⟩)).bind fun after =>
          if after.threads 0 = .idle then
            (tasks.runWith Plain after later).map fun q =>
              (List.ofFn last.threads, List.ofFn q.threads)
          else none

/-- An executed call is a call. -/
theorem exists_of_disabling {earlier during later : List (Fin 3 × Choice)} {one two : Task}
    {left : List Task}
    (ran : disabling earlier during later = some ([.disabling .spin, one, two], left)) :
    ∃ before last after q : Tasks (Fin 3), DisableCall 0 before last after ∧
      last.threads 1 = one ∧ last.threads 2 = two ∧ tasks.Path Plain after q ∧
        List.ofFn q.threads = left := by
  obtain ⟨before, earlier, ran⟩ := Option.bind_eq_some_iff.mp ran
  obtain ⟨begun, called, ran⟩ := Option.bind_eq_some_iff.mp ran
  obtain ⟨last, during, ran⟩ := Option.bind_eq_some_iff.mp ran
  obtain ⟨after, returned, ran⟩ := Option.bind_eq_some_iff.mp ran
  split at ran
  · rename_i idle
    obtain ⟨q, later, seen⟩ := Option.map_eq_some_iff.mp ran
    obtain ⟨⟨waiting, rfl, rfl⟩, rfl⟩ :
        (last.threads 0 = .disabling .spin ∧ last.threads 1 = one ∧ last.threads 2 = two) ∧
          List.ofFn q.threads = left := by
      obtain ⟨threads, rfl⟩ := Prod.mk.inj seen
      exact ⟨by simpa [List.ofFn_succ] using threads, rfl⟩
    exact ⟨before, last, after, q, ⟨⟨fresh, fresh_fresh, System.path_of_runWith earlier⟩,
      ⟨begun, called, System.path_of_runWith during⟩, waiting, _, returned, idle⟩, rfl, rfl,
      System.path_of_runWith later, rfl⟩
  · simp at ran

/-- The tasklet is disabled while its callback executes: the call waits for it, and the callback
stays out. -/
theorem executing_disabled : ∃ before last after : Tasks (Fin 3), DisableCall 0 before last after ∧
    ∀ q, tasks.Path Plain after q → ∀ u, q.threads u ≠ .worker .inCallback := by
  have ran : disabling (schedule ++ (1, .begin) :: go 4 1) (go 2 0 ++ go 2 1) [] =
      some ([.disabling .spin, .worker .testSched, .idle], [.idle, .worker .testSched, .idle]) := by
    decide +kernel
  obtain ⟨before, last, after, -, call, one, two, -⟩ := exists_of_disabling ran
  refine ⟨before, last, after, call, (tasklet_disable_iff call).mpr fun u here => ?_⟩
  match u with
  | 0 => simp [call.waiting] at here
  | 1 => simp [one] at here
  | 2 => simp [two] at here

/-- The tasklet is disabled after its worker has looked at the count and before it takes `RUN`:
the call returns at once, and then the worker calls back. -/
theorem passed_disabled : ¬∀ (t : Fin 3) (before last after : Tasks (Fin 3)),
    DisableCall t before last after →
      ∀ q, tasks.Path Plain after q → ∀ u, q.threads u ≠ .worker .inCallback := by
  intro always
  have ran : disabling (schedule ++ (1, .begin) :: go 1 1) (go 1 0) (go 3 1) =
      some ([.disabling .spin, .worker .takeRun, .idle], [.idle, .worker .inCallback, .idle]) := by
    decide +kernel
  obtain ⟨before, last, after, q, call, -, -, path, threads⟩ := exists_of_disabling ran
  obtain ⟨-, inside, -⟩ : _ ∧ q.threads 1 = .worker .inCallback ∧ _ := by
    simpa [List.ofFn_succ] using threads
  exact always 0 before last after call q path 1 inside

end Lcompat.Tasklet

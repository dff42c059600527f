import Lcompat.Logic.Fairness
import Lcompat.Tasklet.Model

/-!
# Killing a tasklet

What one `tasklet_kill` call achieves when every `tasklet_schedule` call has finished before it.
The call clears `SCHED` for good and waits while `RUN` is set; from then on a worker that takes
`RUN` finds nothing to consume, drops it and returns. The callback never executes again, and
under a fair scheduler every worker that is left, or created and not yet started, returns.
-/

namespace Lcompat.Tasklet

open Lcompat.Logic

/-- A worker that has consumed `SCHED` and holds `RUN`. -/
@[grind]
def WorkerPc.calls : WorkerPc → Bool
  | .invoke | .inCallback | .clearRun => true
  | .readCount | .loopSched | .takeRun | .clearSched | .dropRun | .testSched => false

/-- A task that is such a worker. -/
@[grind]
def Task.calls : Task → Bool
  | .worker pc => pc.calls
  | .idle | .scheduling _ | .disabling _ | .enabling | .killing _ => false

/-- A task that is outside all functions or a worker. -/
@[grind]
def Task.works : Task → Bool
  | .idle | .worker _ => true
  | .scheduling _ | .disabling _ | .enabling | .killing _ => false

/-- A worker that has consumed `SCHED` holds `RUN`. -/
theorem Task.holds_of_calls {task : Task} (calls : task.calls = true) : task.holds = true := by
  cases task with
  | worker pc => cases pc <;> simp_all [Task.calls, WorkerPc.calls, Task.holds, WorkerPc.holds]
  | idle | scheduling | disabling | enabling | killing => simp [Task.calls] at calls

variable {Id : Type} [DecidableEq Id]

/-- A step that calls nothing: a created worker begins, or a task goes on. -/
def Working (_ : Tasks Id) (a : Id × Choice) : Prop :=
  a.2 = .begin ∨ ∃ env, a.2 = .go env

/-- One task calls `tasklet_kill`, as the first one, after all `tasklet_schedule` calls, and
returns from it. -/
structure KillCall (t : Id) (before last after : Tasks Id) : Prop where
  /-- The tasklet has only been scheduled before. -/
  reached : tasks.Reach Plain before
  /-- No call of `tasklet_schedule` is under way. -/
  finished : ∀ u, (before.threads u).works = true
  /-- The call begins, and workers go on. -/
  called : ∃ begun, Pool.step exec before (t, .kill) = some begun ∧ tasks.Path Working begun last
  /-- The call is about to enable the tasklet again. -/
  waited : last.threads t = .killing .dec
  /-- The call returns. -/
  returned : ∃ env, Pool.step exec last (t, .go env) = some after

/-- A tasklet that one task is killing. -/
structure Killing (t : Id) (tasklet : TaskletStruct) (threads : Id → Task) : Prop where
  /-- `RUN` is a lock. -/
  owned : Owned tasklet threads
  /-- Other tasks only work. -/
  works : ∀ u, u ≠ t → (threads u).works = true
  /-- The count tells how far the task has come. -/
  stage : threads t = .killing .inc ∧ tasklet.count = 0 ∨
    threads t = .killing .clearSched ∧ tasklet.count = 1 ∨
    threads t = .killing .spin ∧ tasklet.count = 1 ∧ tasklet.sched = false ∨
    threads t = .killing .dec ∧ tasklet.count = 1 ∧ tasklet.sched = false ∧
      (∀ u, (threads u).calls = false) ∨
    (threads t).works = true

/-- Every step that calls nothing keeps the stage. -/
theorem Killing.step {t u : Id} {tasklet tasklet' : TaskletStruct} {threads : Id → Task}
    {choice : Choice} {task : Task} (killing : Killing t tasklet threads)
    (working : choice = .begin ∨ ∃ env, choice = .go env)
    (moved : Moved tasklet (threads u) choice tasklet' task) :
    Killing t tasklet' (Function.update threads u task) := by
  have locked := killing.owned.step moved
  obtain ⟨owned, works, stage⟩ := killing
  have silent : tasklet.run = false → ∀ v, (threads v).calls = false := fun free v => by
    by_contra calls
    simp [owned.held v (Task.holds_of_calls (by simpa using calls))] at free
  generalize here : threads u = before at moved
  cases moved <;> refine ⟨locked, ?_, ?_⟩ <;> grind -ring -linarith

/-- A tasklet that was killed. -/
structure Dead (tasklet : TaskletStruct) (threads : Id → Task) : Prop where
  /-- `RUN` is a lock. -/
  owned : Owned tasklet threads
  /-- Tasks only work. -/
  works : ∀ u, (threads u).works = true
  /-- The tasklet is enabled. -/
  count : tasklet.count = 0
  /-- It is not scheduled. -/
  clear : tasklet.sched = false
  /-- Nobody calls back. -/
  silent : ∀ u, (threads u).calls = false

/-- A killed tasklet stays dead. -/
theorem Dead.step {u : Id} {tasklet tasklet' : TaskletStruct} {threads : Id → Task}
    {choice : Choice} {task : Task} (dead : Dead tasklet threads)
    (working : choice = .begin ∨ ∃ env, choice = .go env)
    (moved : Moved tasklet (threads u) choice tasklet' task) :
    Dead tasklet' (Function.update threads u task) := by
  have locked := dead.owned.step moved
  obtain ⟨owned, works, count, clear, silent⟩ := dead
  generalize here : threads u = before at moved
  cases moved <;> refine ⟨locked, ?_, ?_, ?_, ?_⟩ <;> grind -ring -linarith

/-- A call that is about to enable the tasklet again has followed its stages. -/
theorem KillCall.killing {t : Id} {before last after : Tasks Id}
    (call : KillCall t before last after) : Killing t last.shared last.threads := by
  obtain ⟨owned, plain, count⟩ : Untouched before.shared before.threads :=
    call.reached.invariant (fun p => Untouched p.shared p.threads)
      (fun _ fresh => Fresh.untouched fresh) fun p a q untouched ok stepped => by
        obtain ⟨shared, next, ran, rfl⟩ := Pool.step_eq_some.mp stepped
        exact untouched.step ok (exec_moved ran)
  obtain ⟨begun, stepped, path⟩ := call.called
  refine path.invariant (fun p => Killing t p.shared p.threads) ?_
    fun p a q killing ok stepped => by
    obtain ⟨shared, next, ran, rfl⟩ := Pool.step_eq_some.mp stepped
    exact killing.step ok (exec_moved ran)
  obtain ⟨shared, next, ran, rfl⟩ := Pool.step_eq_some.mp stepped
  have locked := owned.step (exec_moved ran)
  obtain ⟨rfl, rfl⟩ : before.shared = shared ∧ Task.killing .inc = next := by
    cases here : before.threads t <;> simp [here, exec] at ran
    simpa using ran
  exact ⟨locked, fun u apart => by simpa [Function.update_of_ne apart] using call.finished u,
    .inl ⟨by simp, count⟩⟩

/-- When `tasklet_kill` returns, the tasklet is dead. -/
theorem KillCall.dead {t : Id} {before last after : Tasks Id}
    (call : KillCall t before last after) : Dead after.shared after.threads := by
  obtain ⟨owned, works, stage⟩ := call.killing
  obtain ⟨env, stepped⟩ := call.returned
  obtain ⟨shared, next, ran, rfl⟩ := Pool.step_eq_some.mp stepped
  have locked := owned.step (exec_moved ran)
  have waited := call.waited
  obtain ⟨rfl, rfl⟩ : { last.shared with count := last.shared.count - 1 } = shared ∧
      Task.idle = next := by
    simpa [waited, exec, taskletKill] using ran
  simp only [waited, Task.works] at stage
  refine ⟨locked, ?_, ?_, ?_, ?_⟩ <;> grind -ring -linarith

/-- A killed tasklet and the tasks that are left. -/
structure Remains (p : Tasks Id) : Prop where
  /-- The tasklet is dead. -/
  dead : Dead p.shared p.threads
  /-- Finitely many workers are left. -/
  finite : {u | p.threads u ≠ .idle}.Finite

/-- How far a worker of a dead tasklet is from its return. -/
@[grind]
def Task.distance : Task → Nat
  | .worker .readCount | .worker .loopSched | .worker .takeRun | .worker .testSched => 3
  | .worker .clearSched => 2
  | .worker .dropRun | .worker .invoke | .worker .inCallback | .worker .clearRun => 1
  | .idle | .scheduling _ | .disabling _ | .enabling | .killing _ => 0

/-- Whether a worker has to look at the count before it can take `RUN`. -/
@[grind]
def Task.outside : Task → Nat
  | .worker .readCount | .worker .loopSched | .worker .testSched => 1
  | .worker .takeRun | .worker .clearSched | .worker .dropRun | .worker .invoke
  | .worker .inCallback | .worker .clearRun => 0
  | .idle | .scheduling _ | .disabling _ | .enabling | .killing _ => 0

/-- How far the workers of a dead tasklet are from their returns; while `RUN` is free, a worker
that gets ready to take it counts as well. -/
noncomputable def remaining (p : Tasks Id) : Nat ×ₗ Nat :=
  toLex (4 * p.shared.workersUnstarted + Pool.total Task.distance p.threads,
    if p.shared.run then 0 else Pool.total Task.outside p.threads)

/-- Every step of what is left of a killed tasklet brings its workers nearer to their returns, or
finds `RUN` held by another one. -/
theorem Remains.progress {p : Tasks Id} {u : Id} {choice : Choice} {tasklet : TaskletStruct}
    {task : Task} (remains : Remains p) (working : choice = .begin ∨ ∃ env, choice = .go env)
    (moved : Moved p.shared (p.threads u) choice tasklet task) :
    remaining ⟨tasklet, Function.update p.threads u task⟩ < remaining p ∨
      remaining ⟨tasklet, Function.update p.threads u task⟩ = remaining p ∧
        p.shared.run = true ∧ tasklet.run = true ∧ (p.threads u).holds = false := by
  obtain ⟨⟨owned, works, count, clear, silent⟩, finite⟩ := remains
  have known := works u
  have quiet := silent u
  have heavy : {v | Task.distance (p.threads v) ≠ 0}.Finite :=
    finite.subset fun v far idle => far (by rw [idle]; rfl)
  have ahead : {v | Task.outside (p.threads v) ≠ 0}.Finite :=
    finite.subset fun v out idle => out (by rw [idle]; rfl)
  have far := Pool.total_update heavy u task
  have out := Pool.total_update ahead u task
  simp only [remaining, Prod.Lex.toLex_lt_toLex, toLex_inj, Prod.mk.injEq]
  generalize here : p.threads u = before at moved
  simp only [here] at far out known quiet
  cases held : p.shared.run <;> cases moved <;>
    simp_all [Task.distance, Task.outside, Task.works, Task.calls, WorkerPc.calls, Task.holds,
      WorkerPc.holds] <;> omega

/-- Every step leaves a killed tasklet and fewer tasks, or as many. -/
theorem Remains.step {p q : Tasks Id} {a : Id × Choice} (remains : Remains p)
    (working : Working p a) (stepped : tasks.step p a = some q) : Remains q := by
  obtain ⟨shared, next, ran, rfl⟩ := Pool.step_eq_some.mp stepped
  exact ⟨remains.dead.step working (exec_moved ran),
    Pool.finite_update (· ≠ .idle) remains.finite a.1 next⟩

/-- Nobody is left. -/
def Over (p : Tasks Id) : Prop :=
  p.shared.workersUnstarted = 0 ∧ ∀ u, p.threads u = .idle

/-- Who takes a step: the scheduler that starts a worker, or a task that goes on. -/
def agent (a : Id × Choice) : Option Id :=
  if a.2 = .begin then none else some a.1

/-- Who helps the workers of a dead tasklet to return: the scheduler while none has been started,
or a worker, which is the one that holds `RUN` when one does. -/
def Helps (p : Tasks Id) : Option Id → Prop
  | none => 0 < p.shared.workersUnstarted ∧ ∀ u, p.threads u = .idle
  | some u => p.threads u ≠ .idle ∧ (p.shared.run = true → (p.threads u).holds = true)

omit [DecidableEq Id] in
/-- Somebody helps until nobody is left. -/
theorem Remains.helped {p : Tasks Id} (remains : Remains p) (left : ¬Over p) :
    ∃ g, Helps p g := by
  by_cases idle : ∀ u, p.threads u = .idle
  · exact ⟨none, Nat.pos_of_ne_zero fun none => left ⟨none, idle⟩, idle⟩
  · obtain ⟨u, busy⟩ := not_forall.mp idle
    cases held : p.shared.run with
    | true =>
      obtain ⟨v, holds⟩ := remains.dead.owned.owner held
      exact ⟨some v, fun idle => by simp [idle, Task.holds] at holds, fun _ => holds⟩
    | false => exact ⟨some u, busy, fun set => by simp [held] at set⟩

/-- Whoever helps can take a step. -/
theorem Helps.enabled {p : Tasks Id} {g : Option Id} (remains : Remains p) (helps : Helps p g)
    [Nonempty Id] : System.Enabled tasks Working agent g p := by
  cases g with
  | none =>
    obtain ⟨waiting, idle⟩ := helps
    obtain ⟨u⟩ := ‹Nonempty Id›
    exact ⟨(u, .begin), _, rfl, .inl rfl, Pool.step_eq_some.mpr
      ⟨_, _, by rw [idle u]; exact if_pos waiting, rfl⟩⟩
  | some u =>
    have works := remains.dead.works u
    cases here : p.threads u with
    | idle => exact absurd here helps.1
    | worker pc =>
      obtain ⟨⟨tasklet, task⟩, ran⟩ :
          ∃ next, exec p.shared (p.threads u) (.go ⟨true, 0⟩) = some next := by
        rcases went : taskletWorker p.shared pc with ⟨tasklet, pc | result⟩ <;>
          simp [here, exec, went]
      exact ⟨(u, .go ⟨true, 0⟩), _, rfl, .inr ⟨_, rfl⟩,
        Pool.step_eq_some.mpr ⟨tasklet, task, ran, rfl⟩⟩
    | scheduling | disabling | enabling | killing => simp [here, Task.works] at works

/-- Whoever helps goes on helping until he takes a step. -/
theorem Helps.step {p : Tasks Id} {g : Option Id} {a : Id × Choice} {q : Tasks Id}
    (remains : Remains p) (helps : Helps p g) (working : Working p a)
    (stepped : tasks.step p a = some q) :
    remaining q < remaining p ∨ remaining q ≤ remaining p ∧ Helps q g ∧ agent a ≠ g := by
  obtain ⟨shared, next, ran, rfl⟩ := Pool.step_eq_some.mp stepped
  obtain ⟨u, choice⟩ := a
  rcases remains.progress working (exec_moved ran) with lower | ⟨same, held, still, other⟩
  · exact .inl lower
  refine .inr ⟨same.le, ?_⟩
  cases g with
  | none =>
    obtain ⟨v, holds⟩ := remains.dead.owned.owner held
    simp [helps.2 v, Task.holds] at holds
  | some v =>
    have holds := helps.2 held
    have apart : v ≠ u := fun same => by simp [← same, holds] at other
    refine ⟨⟨?_, fun _ => ?_⟩, ?_⟩
    · simpa [Function.update_of_ne apart] using helps.1
    · simpa [Function.update_of_ne apart] using holds
    · simp only [agent]
      split <;> simp [apart.symm]

/-- When `tasklet_kill` returns, finitely many workers are left. -/
theorem KillCall.remains {t : Id} {before last after : Tasks Id}
    (call : KillCall t before last after) : Remains after := by
  have spreads : ∀ (p : Tasks Id) (a : Id × Choice) (q : Tasks Id),
      {u | p.threads u ≠ .idle}.Finite → Pool.step exec p a = some q →
        {u | q.threads u ≠ .idle}.Finite := fun p a q finite stepped => by
    obtain ⟨shared, next, -, rfl⟩ := Pool.step_eq_some.mp stepped
    exact Pool.finite_update (· ≠ .idle) finite a.1 next
  have first : {u | before.threads u ≠ .idle}.Finite :=
    call.reached.invariant (fun p => {u | p.threads u ≠ .idle}.Finite)
      (fun p fresh => by simp [fresh.idle]) fun p a q finite _ stepped =>
        spreads p a q finite stepped
  obtain ⟨begun, stepped, path⟩ := call.called
  have then_ : {u | last.threads u ≠ .idle}.Finite :=
    path.invariant (fun p => {u | p.threads u ≠ .idle}.Finite) (spreads _ _ _ first stepped)
      fun p a q finite _ stepped => spreads p a q finite stepped
  obtain ⟨env, stepped⟩ := call.returned
  exact ⟨call.dead, spreads _ _ _ then_ stepped⟩

/-- When `tasklet_kill` returns and every `tasklet_schedule` call had finished before it, the
callback is not executing and never executes again, and in every fair run there comes a time at
which no worker is left. -/
theorem tasklet_kill_stops {t : Id} {before last after : Tasks Id}
    (call : KillCall t before last after) :
    (∀ q, tasks.Path Working after q → ∀ u, q.threads u ≠ .worker .inCallback) ∧
      ∀ run : System.Run tasks Working, run.state 0 = after → run.Fair agent →
        ∃ n, Over (run.state n) := by
  have remains := call.remains
  have : Nonempty Id := ⟨t⟩
  constructor
  · intro q path u inside
    have remains : Remains q := path.invariant Remains remains fun p a q remains ok stepped =>
      remains.step ok stepped
    have silent := remains.dead.silent u
    simp [inside, Task.calls, WorkerPc.calls] at silent
  · intro run first fair
    exact run.eventually fair remaining (first ▸ remains)
      (fun p a q remains ok stepped => remains.step ok stepped)
      (fun p remains left => remains.helped left)
      (fun p g remains helps => helps.enabled remains)
      (fun p a q g remains helps ok stepped => helps.step remains ok stepped)

/-- Whether a step calls nothing is decided by evaluation. -/
instance decidableWorking (p : Tasks Id) : (a : Id × Choice) → Decidable (Working p a)
  | (_, .begin) => .isTrue (.inl rfl)
  | (_, .go env) => .isTrue (.inr ⟨env, rfl⟩)
  | (_, .schedule) | (_, .disable) | (_, .enable) | (_, .kill) =>
    .isFalse fun working => by simp [Working] at working

/-- When nobody is left, nobody takes a step. -/
theorem Over.stops {p : Tasks Id} (past : Over p) (g : Option Id) :
    ¬System.Enabled tasks Working agent g p := by
  rintro ⟨⟨u, choice⟩, q, -, working, stepped⟩
  obtain ⟨shared, next, ran, rfl⟩ := Pool.step_eq_some.mp stepped
  rcases working with begin_ | ⟨env, goes⟩
  · simp_all [exec, past.1, past.2 u]
  · simp_all [exec, past.2 u]

/-- A call of `tasklet_kill` by the client: what comes before it, what comes between the call and
its last step, what comes afterwards, and where the tasks stand before the last step and at the
end. -/
def killing (earlier during later : List (Fin 3 × Choice)) :
    Option (List Task × List Task × Nat) :=
  (tasks.runWith Plain fresh earlier).bind fun before =>
    (Pool.step exec before (0, .kill)).bind fun begun =>
      (tasks.runWith Working begun during).bind fun last =>
        (Pool.step exec last (0, .go ⟨true, 0⟩)).bind fun after =>
          if (∀ u, (before.threads u).works = true) ∧ last.threads 0 = .killing .dec then
            (tasks.runWith Working after later).map fun q =>
              (List.ofFn after.threads, List.ofFn q.threads, q.shared.workersUnstarted)
          else none

/-- The tasklet is killed while its callback executes and another worker waits to be started: the
call waits for the first worker, and the second finds nothing to do. -/
theorem executing_killed : ∃ (before last after : Tasks (Fin 3))
    (run : System.Run tasks Working), KillCall 0 before last after ∧
      after.threads 1 = .worker .testSched ∧ run.state 0 = after ∧ run.Fair agent ∧
      (∀ q, tasks.Path Working after q → ∀ u, q.threads u ≠ .worker .inCallback) ∧
      ∃ n, Over (run.state n) := by
  have ran : killing (schedule ++ (1, .begin) :: go 4 1 ++ schedule) (go 2 0 ++ go 2 1 ++ go 1 0)
      (go 1 1 ++ (2, .begin) :: go 4 2) =
        some ([.idle, .worker .testSched, .idle], [.idle, .idle, .idle], 0) := by
    decide +kernel
  obtain ⟨before, earlier, ran⟩ := Option.bind_eq_some_iff.mp ran
  obtain ⟨begun, called, ran⟩ := Option.bind_eq_some_iff.mp ran
  obtain ⟨last, during, ran⟩ := Option.bind_eq_some_iff.mp ran
  obtain ⟨after, returned, ran⟩ := Option.bind_eq_some_iff.mp ran
  obtain ⟨⟨finished, waited⟩, ran⟩ := Option.ite_none_right_eq_some.mp ran
  obtain ⟨q, later, seen⟩ := Option.map_eq_some_iff.mp ran
  obtain ⟨⟨-, here, -⟩, idle, none⟩ : (_ ∧ after.threads 1 = .worker .testSched ∧ _) ∧
      (q.threads 0 = .idle ∧ q.threads 1 = .idle ∧ q.threads 2 = .idle) ∧
        q.shared.workersUnstarted = 0 := by
    simpa [List.ofFn_succ, and_assoc] using seen
  have call : KillCall 0 before last after := ⟨⟨fresh, fresh_fresh, System.path_of_runWith earlier⟩,
    finished, ⟨begun, called, System.path_of_runWith during⟩, waited, _, returned⟩
  have past : Over q := ⟨none, fun u => match u with
    | 0 => idle.1
    | 1 => idle.2.1
    | 2 => idle.2.2⟩
  obtain ⟨run, first, fair⟩ := (System.path_of_runWith later).exists_fair past.stops
  obtain ⟨never, ends⟩ := tasklet_kill_stops call
  exact ⟨before, last, after, run, call, here, first, fair, never, ends run first fair⟩

end Lcompat.Tasklet

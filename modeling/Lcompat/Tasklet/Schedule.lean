import Lcompat.Tasklet.Model

/-!
# Scheduling a tasklet

Any number of `tasklet_schedule` calls beside the workers they create. `RUN` lets one worker
through at a time, and a worker returns only after a look that found `SCHED` clear, so a set
`SCHED` always has a worker that is still going to look or a call that is going to create one.
The history notes the calls and the callbacks: a call that no callback has followed leaves
`SCHED` set, or a worker about to call back.
-/

namespace Lcompat.Tasklet

open Lcompat.Logic
open Lcompat.Workqueue (Env)

/-- What the history of a tasklet is about. -/
inductive Event where
  /-- `tasklet_schedule` set `SCHED`, or found it set. -/
  | scheduled
  /-- A worker entered the callback. -/
  | started
  deriving DecidableEq

/-- What is noted of the next step of a task. -/
@[grind]
def Task.events : Task → List Event
  | .scheduling .setSched => [.scheduled]
  | .worker .invoke => [.started]
  | .scheduling .create | .scheduling .undoSched => []
  | .worker .readCount | .worker .loopSched | .worker .takeRun | .worker .clearSched
  | .worker .dropRun | .worker .inCallback | .worker .clearRun | .worker .testSched => []
  | .idle | .disabling _ | .enabling | .killing _ => []

/-- Whether a call has not been followed by a callback, in a history that begins with the newest
event. -/
@[grind]
def owed : List Event → Bool
  | .scheduled :: _ => true
  | .started :: _ => false
  | [] => false

/-- A worker that has not taken the decision to return. -/
@[grind]
def WorkerPc.undecided : WorkerPc → Bool
  | .readCount | .loopSched | .takeRun | .clearSched | .invoke | .inCallback | .clearRun
  | .testSched => true
  | .dropRun => false

/-- A task from which a worker will look at `SCHED`: a worker that has not taken the decision to
return, or a call between setting `SCHED` and creating its worker. -/
@[grind]
def Task.looks : Task → Bool
  | .worker pc => pc.undecided
  | .scheduling .create => true
  | .idle | .scheduling .setSched | .scheduling .undoSched | .disabling _ | .enabling
  | .killing _ => false

/-- A worker that is about to call back. -/
@[grind]
def Task.invokes : Task → Bool
  | .worker .invoke => true
  | .worker .readCount | .worker .loopSched | .worker .takeRun | .worker .clearSched
  | .worker .dropRun | .worker .inCallback | .worker .clearRun | .worker .testSched => false
  | .idle | .scheduling _ | .disabling _ | .enabling | .killing _ => false

variable {Id : Type} [DecidableEq Id]

/-- The interleavings of the tasks with the history of the tasklet. -/
def recorded : System (Tasks Id × List Event) (Id × Choice) :=
  tasks.record fun p a => (p.threads a.1).events

/-- Tasks only call `tasklet_schedule`, and every call that sets `SCHED` gets its worker. -/
def Scheduling (p : Tasks Id) (a : Id × Choice) : Prop :=
  match a.2 with
  | .schedule | .begin => True
  | .disable | .enable | .kill => False
  | .go env => p.threads a.1 = .scheduling .create → env.created = true

/-- A tasklet that is only scheduled. -/
structure Scheduled (past : List Event) (tasklet : TaskletStruct) (threads : Id → Task) : Prop where
  /-- `RUN` is a lock. -/
  owned : Owned tasklet threads
  /-- Tasks schedule or work, and no call has failed. -/
  only : ∀ t, threads t = .idle ∨ threads t = .scheduling .setSched ∨
    threads t = .scheduling .create ∨ ∃ pc, threads t = .worker pc
  /-- `SCHED` will be looked at. -/
  awake : tasklet.sched = true → 0 < tasklet.workersUnstarted ∨ ∃ t, (threads t).looks = true
  /-- A call without a callback has left `SCHED` set, or a worker about to call back. -/
  owed : owed past = true → tasklet.sched = true ∨ ∃ t, (threads t).invokes = true

/-- Every step keeps a scheduled tasklet awake. -/
theorem Scheduled.step {past : List Event} {tasklet tasklet' : TaskletStruct}
    {threads : Id → Task} {t : Id} {choice : Choice} {task : Task}
    (scheduled : Scheduled past tasklet threads)
    (ok : Scheduling ⟨tasklet, threads⟩ (t, choice))
    (moved : Moved tasklet (threads t) choice tasklet' task) :
    Scheduled ((threads t).events ++ past) tasklet' (Function.update threads t task) := by
  have locked := scheduled.owned.step moved
  obtain ⟨owned, only, awake, pending⟩ := scheduled
  have known := only t
  simp only [Scheduling] at ok
  generalize here : threads t = before at moved
  cases moved with
  | disable | enable | kill => exact ok.elim
  | createFailed env failed => simp [ok here] at failed
  | undoSched | disableInc | disableSpin | disabled | enabled | killInc | killClear | killSpin
  | killSeen | killed => simp [here] at known
  | _ =>
    refine ⟨locked, by grind -ring -linarith, ?_, ?_⟩ <;> rw [Pool.exists_update] <;>
      grind -ring -linarith

omit [DecidableEq Id] in
/-- Nothing has happened to a fresh tasklet. -/
theorem Fresh.scheduled {p : Tasks Id} (fresh : Fresh p) : Scheduled [] p.shared p.threads := by
  have idle := fresh.idle
  refine ⟨⟨?_, ?_, ?_⟩, fun t => .inl (idle t), ?_, by simp [Tasklet.owed]⟩ <;>
    simp [idle, fresh.tasklet, taskletSetup, Task.holds]

/-- A call that no callback has followed is the newest event but for other calls. -/
theorem started_of_not_owed {past newer older : List Event} (paid : owed past = false)
    (split : past = newer ++ .scheduled :: older) : .started ∈ newer := by
  subst split
  cases newer with
  | nil => simp [owed] at paid
  | cons event newer =>
    cases event with
    | scheduled => simp [owed] at paid
    | started => exact List.mem_cons_self

/-- What holds of a tasklet that is only scheduled, with its history. -/
structure Followed (p : Tasks Id) (past : List Event) : Prop where
  /-- The callback executes in one worker at most. -/
  exclusive : ∀ t u, p.threads t = .worker .inCallback → p.threads u = .worker .inCallback → t = u
  /-- While `SCHED` is set, there is a worker that has not taken the decision to return, or a call
  between setting `SCHED` and creating its worker. -/
  awake : p.shared.sched = true → 0 < p.shared.workersUnstarted ∨
    (∃ t pc, p.threads t = .worker pc ∧ pc.undecided = true) ∨
      ∃ t, p.threads t = .scheduling .create
  /-- When no call and no worker is left, every call has been followed by a callback. -/
  followed : p.shared.workersUnstarted = 0 → (∀ t, p.threads t = .idle) →
    ∀ newer older, past = newer ++ .scheduled :: older → .started ∈ newer

/-- In every run in which a tasklet is only scheduled, its callback does not execute twice at
once, no wake-up is lost, and every call is followed by a callback. -/
theorem tasklet_schedule_followed {p : Tasks Id} {past : List Event}
    (reach : recorded.Reach (fun s a => Scheduling s.1 a) (p, past)) : Followed p past := by
  obtain ⟨owned, only, awake, pending⟩ : Scheduled past p.shared p.threads :=
    reach.invariant (fun s => Scheduled s.2 s.1.shared s.1.threads)
      (fun s initial => initial.2 ▸ initial.1.scheduled)
      fun s a t scheduled ok stepped => by
        obtain ⟨stepped, noted⟩ := System.record_step_eq_some.mp stepped
        obtain ⟨shared, next, ran, same⟩ := Pool.step_eq_some.mp stepped
        rw [noted, same]
        exact scheduled.step ok (exec_moved ran)
  refine ⟨fun t u left right => ?_, fun set => ?_, fun started quiet newer older split => ?_⟩
  · exact owned.one t u (by rw [left]; rfl) (by rw [right]; rfl)
  · rcases awake set with waiting | ⟨t, looks⟩
    · exact .inl waiting
    · rcases only t with here | here | here | ⟨pc, here⟩
      · simp [here, Task.looks] at looks
      · simp [here, Task.looks] at looks
      · exact .inr (.inr ⟨t, here⟩)
      · exact .inr (.inl ⟨t, pc, here, by simpa [here, Task.looks] using looks⟩)
  · refine started_of_not_owed ?_ split
    by_contra owes
    have clear : p.shared.sched = false := by
      by_contra set
      rcases awake (by simpa using set) with waiting | ⟨t, looks⟩
      · omega
      · simp [quiet t, Task.looks] at looks
    rcases pending (by simpa using owes) with set | ⟨t, invokes⟩
    · simp [clear] at set
    · simp [quiet t, Task.invokes] at invokes

/-- Whether a step belongs to tasks that only schedule is decided by evaluation. -/
instance decidableScheduling (p : Tasks Id) : (a : Id × Choice) → Decidable (Scheduling p a)
  | (_, .schedule) | (_, .begin) => .isTrue trivial
  | (_, .disable) | (_, .enable) | (_, .kill) => .isFalse id
  | (t, .go env) =>
    inferInstanceAs (Decidable (p.threads t = .scheduling .create → env.created = true))

/-- The tasklet is scheduled again while its worker is inside the callback. The new worker waits
for `RUN`, finds `SCHED` consumed by the first one, and returns. -/
theorem rescheduled_followed : ∃ (p : Tasks (Fin 3)) (past : List Event), Followed p past ∧
    past = [.started, .scheduled, .started, .scheduled] ∧ ∀ t, p.threads t = .idle := by
  have ran : (recorded.runWith (fun s a => Scheduling s.1 a) (fresh, [])
      (schedule ++ (1, .begin) :: go 4 1 ++ schedule ++ (2, .begin) :: go 2 2 ++ go 10 1 ++
        go 4 2)).map (fun s => (s.2, decide (∀ t, s.1.threads t = .idle))) =
          some ([.started, .scheduled, .started, .scheduled], true) := by
    decide +kernel
  obtain ⟨⟨p, past⟩, reached, seen⟩ := Option.map_eq_some_iff.mp ran
  obtain ⟨rfl, quiet⟩ : past = _ ∧ ∀ t, p.threads t = .idle := by simpa using seen
  exact ⟨p, _, tasklet_schedule_followed
    ⟨(fresh, []), ⟨fresh_fresh, rfl⟩, System.path_of_runWith reached⟩, rfl, quiet⟩

end Lcompat.Tasklet

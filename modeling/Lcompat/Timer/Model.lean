import Lcompat.Workqueue.Model

/-!
# Timers

The functions of `timer.h` as sequences of atomic steps on one timer, and the interleavings of
any number of tasks that call them with the worker tasks that `mod_timer` creates. One step is
one atomic operation, one task creation, or the entry or exit of the timer function. A call
made by the timer function is a call of another task here: the worker is inside the function
for as long as that call takes. Created workers wait to be started by the scheduler.
-/

namespace Lcompat.Timer

open Lcompat.Logic
open Lcompat.Workqueue (Env timeBefore)

/-- `struct timer_list`, whose function is the caller's and is never null, and the worker tasks
that were created for it. -/
structure TimerList where
  /-- `expires`, in jiffies. -/
  expires : UInt64
  /-- `generation`. -/
  generation : UInt32
  /-- `active`: the timer is pending. -/
  active : Bool
  /-- `running`: a worker is past its checks. -/
  running : Bool
  /-- Created worker tasks that the scheduler has not started. -/
  workersUnstarted : Nat
  deriving DecidableEq

/-- `timer_setup`. -/
def timerSetup : TimerList where
  expires := 0
  generation := 0
  active := false
  running := false
  workersUnstarted := 0

/-- Local variables of `lcompat_timer_worker`. -/
structure WorkerVars where
  /-- `generation`. -/
  generation : UInt32
  /-- `expires`. -/
  expires : UInt64
  deriving DecidableEq

/-- Steps of `lcompat_timer_worker`. -/
inductive WorkerPc where
  | loadGeneration
  | loadExpires (generation : UInt32)
  | loopActive (vars : WorkerVars)
  | loopGeneration (vars : WorkerVars)
  | loopTime (vars : WorkerVars)
  | checkActive (vars : WorkerVars)
  | checkGeneration (vars : WorkerVars)
  | setRunning (vars : WorkerVars)
  | clearActive (vars : WorkerVars)
  | checkFinal (vars : WorkerVars)
  | call
  | inFunc
  | clearRunning
  deriving DecidableEq

/-- `lcompat_timer_worker`: wait for the deadline while the arming it has sampled is the
current one, claim it, check it once more and call the function. The function is entered in one
step and left in another. -/
def timerWorker (env : Env) (timer : TimerList) : WorkerPc → TimerList × Next WorkerPc Unit
  | .loadGeneration => (timer, .goto (.loadExpires timer.generation))
  | .loadExpires generation => (timer, .goto (.loopActive ⟨generation, timer.expires⟩))
  | .loopActive vars =>
    (timer, if timer.active then .goto (.loopGeneration vars) else .goto (.checkActive vars))
  | .loopGeneration vars =>
    (timer, if timer.generation = vars.generation then .goto (.loopTime vars)
      else .goto (.checkActive vars))
  | .loopTime vars =>
    (timer, if timeBefore env.now vars.expires then .goto (.loopActive vars)
      else .goto (.checkActive vars))
  | .checkActive vars =>
    (timer, if timer.active then .goto (.checkGeneration vars) else .ret ())
  | .checkGeneration vars =>
    (timer, if timer.generation = vars.generation then .goto (.setRunning vars) else .ret ())
  | .setRunning vars => ({ timer with running := true }, .goto (.clearActive vars))
  | .clearActive vars => ({ timer with active := false }, .goto (.checkFinal vars))
  | .checkFinal vars =>
    (timer, if timer.generation = vars.generation then .goto .call else .goto .clearRunning)
  | .call => (timer, .goto .inFunc)
  | .inFunc => (timer, .goto .clearRunning)
  | .clearRunning => ({ timer with running := false }, .ret ())

/-- Steps of `mod_timer`; after the first one they carry whether the timer was pending. -/
inductive ModPc where
  | loadActive
  | storeExpires (pending : Bool)
  | storeActive (pending : Bool)
  | incGeneration (pending : Bool)
  | create (pending : Bool)
  | undoActive (pending : Bool)
  | undoGeneration (pending : Bool)
  deriving DecidableEq

/-- `mod_timer`: arm the timer and create a worker for it, undoing the arming when there is no
worker. -/
def modTimer (expires : UInt64) (env : Env) (timer : TimerList) :
    ModPc → TimerList × Next ModPc Int
  | .loadActive => (timer, .goto (.storeExpires timer.active))
  | .storeExpires pending => ({ timer with expires := expires }, .goto (.storeActive pending))
  | .storeActive pending => ({ timer with active := true }, .goto (.incGeneration pending))
  | .incGeneration pending =>
    ({ timer with generation := timer.generation + 1 }, .goto (.create pending))
  | .create pending =>
    if env.created then
      ({ timer with workersUnstarted := timer.workersUnstarted + 1 },
        .ret (if pending then 1 else 0))
    else (timer, .goto (.undoActive pending))
  | .undoActive pending => ({ timer with active := false }, .goto (.undoGeneration pending))
  | .undoGeneration pending =>
    ({ timer with generation := timer.generation + 1 }, .ret (if pending then 1 else 0))

/-- Steps of `del_timer_sync`; they carry whether the timer was pending once it is known. -/
inductive DelPc where
  | loadActive
  | loadRunning
  | clearActive (pending : Bool)
  | incGeneration (pending : Bool)
  | spin (pending : Bool)
  | storeExpires (pending : Bool)
  deriving DecidableEq

/-- `del_timer_sync`: revoke the arming, then wait while a worker is marked running. -/
def delTimerSync (timer : TimerList) : DelPc → TimerList × Next DelPc Int
  | .loadActive =>
    (timer, if timer.active then .goto (.clearActive true) else .goto .loadRunning)
  | .loadRunning => (timer, .goto (.clearActive timer.running))
  | .clearActive pending => ({ timer with active := false }, .goto (.incGeneration pending))
  | .incGeneration pending =>
    ({ timer with generation := timer.generation + 1 }, .goto (.spin pending))
  | .spin pending =>
    (timer, if timer.running then .goto (.spin pending) else .goto (.storeExpires pending))
  | .storeExpires pending => ({ timer with expires := 0 }, .ret (if pending then 1 else 0))

/-- What a task is doing. -/
inductive Task where
  /-- Outside the functions of the timer. -/
  | idle
  /-- In `mod_timer`. -/
  | arming (expires : UInt64) (pc : ModPc)
  /-- In `del_timer_sync`. -/
  | deleting (pc : DelPc)
  /-- A worker of the timer. -/
  | worker (pc : WorkerPc)
  deriving DecidableEq

/-- A worker of a generation that has found the timer pending and not made its final check. -/
@[grind]
def WorkerPc.claims (generation : UInt32) : WorkerPc → Bool
  | .checkGeneration vars | .setRunning vars | .clearActive vars | .checkFinal vars =>
    vars.generation == generation
  | .loadGeneration | .loadExpires _ | .loopActive _ | .loopGeneration _ | .loopTime _
  | .checkActive _ | .call | .inFunc | .clearRunning => false

/-- A task that is such a worker. -/
@[grind]
def Task.claims (generation : UInt32) : Task → Bool
  | .worker pc => pc.claims generation
  | .idle | .arming _ _ | .deleting _ => false

/-- What a task does next. -/
inductive Choice where
  /-- Call `mod_timer`. -/
  | arm (expires : UInt64)
  /-- Call `del_timer_sync`. -/
  | delete
  /-- Begin as a worker task that was created. -/
  | begin
  /-- Take the next step of the function it is in. -/
  | go (env : Env)
  deriving DecidableEq

/-- The next step of a task. -/
def exec (timer : TimerList) (task : Task) (choice : Choice) : Option (TimerList × Task) :=
  match task with
  | .idle =>
    match choice with
    | .arm expires => some (timer, .arming expires .loadActive)
    | .delete => some (timer, .deleting .loadActive)
    | .begin =>
      if 0 < timer.workersUnstarted then
        some ({ timer with workersUnstarted := timer.workersUnstarted - 1 },
          .worker .loadGeneration)
      else none
    | .go _ => none
  | .arming expires pc =>
    match choice with
    | .go env =>
      match modTimer expires env timer pc with
      | (timer, .goto pc) => some (timer, .arming expires pc)
      | (timer, .ret _) => some (timer, .idle)
    | .arm _ | .delete | .begin => none
  | .deleting pc =>
    match choice with
    | .go _ =>
      match delTimerSync timer pc with
      | (timer, .goto pc) => some (timer, .deleting pc)
      | (timer, .ret _) => some (timer, .idle)
    | .arm _ | .delete | .begin => none
  | .worker pc =>
    match choice with
    | .go env =>
      match timerWorker env timer pc with
      | (timer, .goto pc) => some (timer, .worker pc)
      | (timer, .ret _) => some (timer, .idle)
    | .arm _ | .delete | .begin => none

/-- The local variables of a worker that waits for its deadline or is about to look whether
the timer is still pending. -/
@[simp, grind]
def WorkerPc.waits : WorkerPc → Option WorkerVars
  | .loopActive vars | .loopGeneration vars | .loopTime vars | .checkActive vars => some vars
  | .loadGeneration | .loadExpires _ | .checkGeneration _ | .setRunning _ | .clearActive _
  | .checkFinal _ | .call | .inFunc | .clearRunning => none

/-- What a step of a task can be. -/
inductive Moved (timer : TimerList) : Task → Choice → TimerList → Task → Prop
  /-- `mod_timer` is called. -/
  | arm (expires : UInt64) :
      Moved timer .idle (.arm expires) timer (.arming expires .loadActive)
  /-- `mod_timer` looks whether the timer is pending. -/
  | lookPending (expires : UInt64) (env : Env) :
      Moved timer (.arming expires .loadActive) (.go env) timer
        (.arming expires (.storeExpires timer.active))
  /-- `mod_timer` stores the deadline. -/
  | storeExpires (expires : UInt64) (pending : Bool) (env : Env) :
      Moved timer (.arming expires (.storeExpires pending)) (.go env)
        { timer with expires := expires } (.arming expires (.storeActive pending))
  /-- `mod_timer` marks the timer pending. -/
  | storeActive (expires : UInt64) (pending : Bool) (env : Env) :
      Moved timer (.arming expires (.storeActive pending)) (.go env)
        { timer with active := true } (.arming expires (.incGeneration pending))
  /-- `mod_timer` increments the generation. -/
  | incGeneration (expires : UInt64) (pending : Bool) (env : Env) :
      Moved timer (.arming expires (.incGeneration pending)) (.go env)
        { timer with generation := timer.generation + 1 } (.arming expires (.create pending))
  /-- `mod_timer` creates a worker. -/
  | create (expires : UInt64) (pending : Bool) (env : Env) (created : env.created = true) :
      Moved timer (.arming expires (.create pending)) (.go env)
        { timer with workersUnstarted := timer.workersUnstarted + 1 } .idle
  /-- `mod_timer` gets no worker. -/
  | createFailed (expires : UInt64) (pending : Bool) (env : Env) (failed : env.created = false) :
      Moved timer (.arming expires (.create pending)) (.go env) timer
        (.arming expires (.undoActive pending))
  /-- `mod_timer` gives up the arming. -/
  | undoActive (expires : UInt64) (pending : Bool) (env : Env) :
      Moved timer (.arming expires (.undoActive pending)) (.go env)
        { timer with active := false } (.arming expires (.undoGeneration pending))
  /-- `mod_timer` makes the generation of the arming stale. -/
  | undoGeneration (expires : UInt64) (pending : Bool) (env : Env) :
      Moved timer (.arming expires (.undoGeneration pending)) (.go env)
        { timer with generation := timer.generation + 1 } .idle
  /-- `del_timer_sync` is called. -/
  | delete : Moved timer .idle .delete timer (.deleting .loadActive)
  /-- `del_timer_sync` looks whether the timer is pending. -/
  | delLook (pc pc' : DelPc) (env : Env) (before : pc = .loadActive ∨ pc = .loadRunning)
      (after : pc' = .loadRunning ∨ ∃ pending, pc' = .clearActive pending) :
      Moved timer (.deleting pc) (.go env) timer (.deleting pc')
  /-- `del_timer_sync` marks the timer not pending. -/
  | delClear (pending : Bool) (env : Env) :
      Moved timer (.deleting (.clearActive pending)) (.go env) { timer with active := false }
        (.deleting (.incGeneration pending))
  /-- `del_timer_sync` increments the generation. -/
  | delIncrement (pending : Bool) (env : Env) :
      Moved timer (.deleting (.incGeneration pending)) (.go env)
        { timer with generation := timer.generation + 1 } (.deleting (.spin pending))
  /-- `del_timer_sync` waits for a worker. -/
  | delSpin (pending : Bool) (env : Env) (running : timer.running = true) :
      Moved timer (.deleting (.spin pending)) (.go env) timer (.deleting (.spin pending))
  /-- `del_timer_sync` sees no worker. -/
  | delSeen (pending : Bool) (env : Env) (stopped : timer.running = false) :
      Moved timer (.deleting (.spin pending)) (.go env) timer (.deleting (.storeExpires pending))
  /-- `del_timer_sync` returns. -/
  | delReturn (pending : Bool) (env : Env) :
      Moved timer (.deleting (.storeExpires pending)) (.go env) { timer with expires := 0 } .idle
  /-- A created worker begins. -/
  | begin (waiting : 0 < timer.workersUnstarted) :
      Moved timer .idle .begin { timer with workersUnstarted := timer.workersUnstarted - 1 }
        (.worker .loadGeneration)
  /-- A worker samples the generation. -/
  | sample (env : Env) :
      Moved timer (.worker .loadGeneration) (.go env) timer
        (.worker (.loadExpires timer.generation))
  /-- A worker samples the deadline. -/
  | sampleExpires (generation : UInt32) (env : Env) :
      Moved timer (.worker (.loadExpires generation)) (.go env) timer
        (.worker (.loopActive ⟨generation, timer.expires⟩))
  /-- A worker waits. -/
  | wait (pc pc' : WorkerPc) (vars : WorkerVars) (env : Env) (before : pc.waits = some vars)
      (after : pc'.waits = some vars) :
      Moved timer (.worker pc) (.go env) timer (.worker pc')
  /-- A worker finds the timer not pending. -/
  | idle (vars : WorkerVars) (env : Env) (cleared : timer.active = false) :
      Moved timer (.worker (.checkActive vars)) (.go env) timer .idle
  /-- A worker finds the timer pending. -/
  | found (vars : WorkerVars) (env : Env) (active : timer.active = true) :
      Moved timer (.worker (.checkActive vars)) (.go env) timer (.worker (.checkGeneration vars))
  /-- A worker finds its generation stale. -/
  | stale (vars : WorkerVars) (env : Env) (other : timer.generation ≠ vars.generation) :
      Moved timer (.worker (.checkGeneration vars)) (.go env) timer .idle
  /-- A worker finds its generation current. -/
  | current (vars : WorkerVars) (env : Env) (same : timer.generation = vars.generation) :
      Moved timer (.worker (.checkGeneration vars)) (.go env) timer (.worker (.setRunning vars))
  /-- A worker is marked running. -/
  | setRunning (vars : WorkerVars) (env : Env) :
      Moved timer (.worker (.setRunning vars)) (.go env) { timer with running := true }
        (.worker (.clearActive vars))
  /-- A worker marks the timer not pending. -/
  | clearActive (vars : WorkerVars) (env : Env) :
      Moved timer (.worker (.clearActive vars)) (.go env) { timer with active := false }
        (.worker (.checkFinal vars))
  /-- A worker passes its final check. -/
  | fire (vars : WorkerVars) (env : Env) (same : timer.generation = vars.generation) :
      Moved timer (.worker (.checkFinal vars)) (.go env) timer (.worker .call)
  /-- A worker fails its final check. -/
  | refuse (vars : WorkerVars) (env : Env) (other : timer.generation ≠ vars.generation) :
      Moved timer (.worker (.checkFinal vars)) (.go env) timer (.worker .clearRunning)
  /-- A worker enters the timer function. -/
  | enter (env : Env) : Moved timer (.worker .call) (.go env) timer (.worker .inFunc)
  /-- A worker leaves the timer function. -/
  | leave (env : Env) : Moved timer (.worker .inFunc) (.go env) timer (.worker .clearRunning)
  /-- A worker is not marked running any more, and returns. -/
  | clearRunning (env : Env) :
      Moved timer (.worker .clearRunning) (.go env) { timer with running := false } .idle

/-- Every step of `lcompat_timer_worker` is one of these. -/
theorem timerWorker_moved (env : Env) (timer : TimerList) (pc : WorkerPc) :
    match timerWorker env timer pc with
    | (timer', .goto pc') => Moved timer (.worker pc) (.go env) timer' (.worker pc')
    | (timer', .ret _) => Moved timer (.worker pc) (.go env) timer' .idle := by
  cases pc with
  | loadGeneration => exact .sample env
  | loadExpires generation => exact .sampleExpires generation env
  | loopActive vars =>
    cases here : timer.active <;> simpa [timerWorker, here] using .wait _ _ vars env rfl rfl
  | loopGeneration vars =>
    by_cases same : timer.generation = vars.generation <;>
      simpa [timerWorker, same] using .wait _ _ vars env rfl rfl
  | loopTime vars =>
    cases before : timeBefore env.now vars.expires <;>
      simpa [timerWorker, before] using .wait _ _ vars env rfl rfl
  | checkActive vars =>
    cases here : timer.active
    · simpa [timerWorker, here] using .idle vars env here
    · simpa [timerWorker, here] using .found vars env here
  | checkGeneration vars =>
    by_cases same : timer.generation = vars.generation
    · simpa [timerWorker, same] using .current vars env same
    · simpa [timerWorker, same] using .stale vars env same
  | setRunning vars => exact .setRunning vars env
  | clearActive vars => exact .clearActive vars env
  | checkFinal vars =>
    by_cases same : timer.generation = vars.generation
    · simpa [timerWorker, same] using .fire vars env same
    · simpa [timerWorker, same] using .refuse vars env same
  | call => exact .enter env
  | inFunc => exact .leave env
  | clearRunning => exact .clearRunning env

/-- Every step of `mod_timer` is one of these. -/
theorem modTimer_moved (expires : UInt64) (env : Env) (timer : TimerList) (pc : ModPc) :
    match modTimer expires env timer pc with
    | (timer', .goto pc') =>
      Moved timer (.arming expires pc) (.go env) timer' (.arming expires pc')
    | (timer', .ret _) => Moved timer (.arming expires pc) (.go env) timer' .idle := by
  cases pc with
  | loadActive => exact .lookPending expires env
  | storeExpires pending => exact .storeExpires expires pending env
  | storeActive pending => exact .storeActive expires pending env
  | incGeneration pending => exact .incGeneration expires pending env
  | create pending =>
    cases created : env.created
    · simpa [modTimer, created] using .createFailed expires pending env created
    · simpa [modTimer, created] using .create expires pending env created
  | undoActive pending => exact .undoActive expires pending env
  | undoGeneration pending => exact .undoGeneration expires pending env

/-- Every step of `del_timer_sync` is one of these. -/
theorem delTimerSync_moved (env : Env) (timer : TimerList) (pc : DelPc) :
    match delTimerSync timer pc with
    | (timer', .goto pc') => Moved timer (.deleting pc) (.go env) timer' (.deleting pc')
    | (timer', .ret _) => Moved timer (.deleting pc) (.go env) timer' .idle := by
  cases pc with
  | loadActive =>
    cases here : timer.active <;>
      simpa [delTimerSync, here] using .delLook _ _ env (by simp) (by simp)
  | loadRunning =>
    simpa [delTimerSync] using .delLook _ _ env (by simp) (by simp)
  | clearActive pending => exact .delClear pending env
  | incGeneration pending => exact .delIncrement pending env
  | spin pending =>
    cases running : timer.running
    · simpa [delTimerSync, running] using .delSeen pending env running
    · simpa [delTimerSync, running] using .delSpin pending env running
  | storeExpires pending => exact .delReturn pending env

/-- Every step of a task is one of these. -/
theorem exec_moved {timer timer' : TimerList} {task task' : Task} {choice : Choice}
    (ran : exec timer task choice = some (timer', task')) :
    Moved timer task choice timer' task' := by
  cases task with
  | idle =>
    cases choice with
    | arm expires =>
      simp only [exec, Option.some.injEq, Prod.mk.injEq] at ran
      obtain ⟨rfl, rfl⟩ := ran
      exact .arm expires
    | delete =>
      simp only [exec, Option.some.injEq, Prod.mk.injEq] at ran
      obtain ⟨rfl, rfl⟩ := ran
      exact .delete
    | begin =>
      simp only [exec] at ran
      split at ran
      · rename_i waiting
        simp only [Option.some.injEq, Prod.mk.injEq] at ran
        obtain ⟨rfl, rfl⟩ := ran
        exact .begin waiting
      · cases ran
    | go env => cases ran
  | arming expires pc =>
    cases choice with
    | go env =>
      have moved := modTimer_moved expires env timer pc
      rcases went : modTimer expires env timer pc with ⟨after, pc' | result⟩ <;>
        simp only [exec, went, Option.some.injEq, Prod.mk.injEq] at ran <;>
        obtain ⟨rfl, rfl⟩ := ran <;>
        simpa only [went] using moved
    | arm _ | delete | begin => cases ran
  | deleting pc =>
    cases choice with
    | go env =>
      have moved := delTimerSync_moved env timer pc
      rcases went : delTimerSync timer pc with ⟨after, pc' | result⟩ <;>
        simp only [exec, went, Option.some.injEq, Prod.mk.injEq] at ran <;>
        obtain ⟨rfl, rfl⟩ := ran <;>
        simpa only [went] using moved
    | arm _ | delete | begin => cases ran
  | worker pc =>
    cases choice with
    | go env =>
      have moved := timerWorker_moved env timer pc
      rcases went : timerWorker env timer pc with ⟨after, pc' | result⟩ <;>
        simp only [exec, went, Option.some.injEq, Prod.mk.injEq] at ran <;>
        obtain ⟨rfl, rfl⟩ := ran <;>
        simpa only [went] using moved
    | arm _ | delete | begin => cases ran

variable {Id : Type} [DecidableEq Id]

/-- One timer and the tasks that use it. -/
abbrev Tasks (Id : Type) := Pool Id TimerList Task

/-- A timer that has just been set up, and nobody inside a function of it. -/
structure Fresh (p : Tasks Id) : Prop where
  /-- The timer is new. -/
  timer : p.shared = timerSetup
  /-- No call is under way. -/
  idle : ∀ t, p.threads t = .idle

/-- Every interleaving of the steps of the tasks from a fresh timer. -/
def tasks : System (Tasks Id) (Id × Choice) := Pool.system exec Fresh

/-- A client, room for two workers, and a timer that was set up. -/
def fresh : Tasks (Fin 3) := ⟨timerSetup, fun _ => .idle⟩

/-- The timer is fresh. -/
theorem fresh_fresh : Fresh fresh := ⟨rfl, fun _ => rfl⟩

/-- Steps of a task whose native calls succeed. -/
def go (steps : Nat) (t : Fin 3) : List (Fin 3 × Choice) :=
  List.replicate steps (t, .go ⟨true, 0⟩)

/-- A call of `mod_timer` by the client from its beginning to its end. -/
def arm : List (Fin 3 × Choice) := (0, .arm 0) :: go 5 0

end Lcompat.Timer

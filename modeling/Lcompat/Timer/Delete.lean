import Lcompat.Timer.Model

/-!
# Deleting a timer

What one `del_timer_sync` call achieves beside any number of `mod_timer` calls and workers. It
makes every sampled generation stale and waits while the timer is marked running, but all
workers share that mark. In a run in which no worker takes the mark away from another one that
is or may come to be inside the function, and in which nobody marks the timer pending while it
is being deleted, no worker is inside the function when the call has returned, and none enters
it until the timer is armed again.
-/

namespace Lcompat.Timer

open Lcompat.Logic

/-- A worker that is inside the function, has passed its final check, or is marked running and
can pass it with a generation. -/
@[grind]
def WorkerPc.marked (generation : UInt32) : WorkerPc → Bool
  | .clearActive vars | .checkFinal vars => vars.generation == generation
  | .call | .inFunc => true
  | .loadGeneration | .loadExpires _ | .loopActive _ | .loopGeneration _ | .loopTime _
  | .checkActive _ | .checkGeneration _ | .setRunning _ | .clearRunning => false

/-- A call of `del_timer_sync` that has marked the timer not pending. -/
@[grind]
def DelPc.revokes : DelPc → Bool
  | .incGeneration _ | .spin _ | .storeExpires _ => true
  | .loadActive | .loadRunning | .clearActive _ => false

/-- A call of `del_timer_sync` that has incremented the generation. -/
@[grind]
def DelPc.revoked : DelPc → Bool
  | .spin _ | .storeExpires _ => true
  | .loadActive | .loadRunning | .clearActive _ | .incGeneration _ => false

/-- A call of `del_timer_sync` that has seen that no worker is marked running. -/
@[grind]
def DelPc.seen : DelPc → Bool
  | .storeExpires _ => true
  | .loadActive | .loadRunning | .clearActive _ | .incGeneration _ | .spin _ => false

/-- A task that is a marked worker. -/
@[grind]
def Task.marked (generation : UInt32) : Task → Bool
  | .worker pc => pc.marked generation
  | .idle | .arming _ _ | .deleting _ => false

/-- What holds of a task's call of `del_timer_sync`, if it is in one. -/
@[grind]
def Task.deletes (holds : DelPc → Bool) : Task → Bool
  | .deleting pc => holds pc
  | .idle | .arming _ _ | .worker _ => false

/-- Calls go through the stages of a deletion in order. -/
theorem Task.deletes_stages (task : Task) :
    (task.deletes DelPc.seen = true → task.deletes DelPc.revoked = true) ∧
      (task.deletes DelPc.revoked = true → task.deletes DelPc.revokes = true) := by
  cases task with
  | deleting pc => cases pc <;> simp [Task.deletes, DelPc.seen, DelPc.revoked, DelPc.revokes]
  | idle | arming | worker => simp [Task.deletes]

/-- A marked worker that claims no generation is past its final check, and stays marked whatever
the generation. -/
theorem Task.marked_of_not_claims {task : Task} {generation : UInt32}
    (marked : task.marked generation = true) (unclaimed : task.claims generation = false)
    (other : UInt32) : task.marked other = true := by
  cases task with
  | worker pc => cases pc <;> simp_all [Task.marked, WorkerPc.marked, Task.claims, WorkerPc.claims]
  | idle | arming | deleting => simp [Task.marked] at marked

variable {Id : Type}

/-- An increment of the generation makes no marked worker current again after its mark was
taken away. -/
def KeepsMarks (p : Tasks Id) : Prop :=
  ∀ u, (p.threads u).marked (p.shared.generation + 1) = true → p.shared.running = true

/-- An increment of the generation makes no claim current again. -/
def KeepsStale (p : Tasks Id) : Prop :=
  ∀ u, (p.threads u).claims (p.shared.generation + 1) = false

/-- The next step of a task takes no mark away that is needed, and does not bring an arming back
that is being deleted. -/
def Task.Respects (p : Tasks Id) : Task → Prop
  | .arming _ (.storeActive _) => ∀ u, (p.threads u).deletes DelPc.revokes = false
  | .arming _ (.incGeneration _) | .arming _ (.undoGeneration _) =>
    KeepsMarks p ∧ ((∃ u, (p.threads u).deletes DelPc.revoked = true) → KeepsStale p)
  | .deleting (.incGeneration _) => KeepsMarks p ∧ KeepsStale p
  | .worker .clearRunning => ∀ u, (p.threads u).marked p.shared.generation = false
  | .idle | .arming _ _ | .deleting _ | .worker _ => True

variable [DecidableEq Id]

/-- A step that takes no mark away that is needed, and does not bring an arming back that is
being deleted. -/
def Respects (p : Tasks Id) (a : Id × Choice) : Prop := (p.threads a.1).Respects p

/-- No worker is inside the function, and none can come to enter it. -/
structure Stopped (timer : TimerList) (threads : Id → Task) : Prop where
  /-- The timer is not pending. -/
  inactive : timer.active = false
  /-- Nobody claims the current generation. -/
  unclaimed : ∀ u, (threads u).claims timer.generation = false
  /-- Nobody is inside the function or about to enter it. -/
  unmarked : ∀ u, (threads u).marked timer.generation = false

/-- What the flags of a timer say about its workers. -/
structure Guarded (timer : TimerList) (threads : Id → Task) : Prop where
  /-- A marked worker is marked. -/
  marked : ∀ u, (threads u).marked timer.generation = true → timer.running = true
  /-- A timer that is being deleted is not pending. -/
  revokes : ∀ u, (threads u).deletes DelPc.revokes = true → timer.active = false
  /-- After the increment nobody claims the current generation. -/
  revoked : ∀ u, (threads u).deletes DelPc.revoked = true →
    ∀ v, (threads v).claims timer.generation = false
  /-- After the wait nobody is inside the function or about to enter it. -/
  seen : ∀ u, (threads u).deletes DelPc.seen = true →
    ∀ v, (threads v).marked timer.generation = false

/-- Every respecting step keeps the flags truthful. -/
theorem Guarded.step {timer timer' : TimerList} {threads : Id → Task} {t : Id} {choice : Choice}
    {task : Task} (guarded : Guarded timer threads)
    (respects : Respects ⟨timer, threads⟩ (t, choice)) (only : choice ≠ .delete)
    (moved : Moved timer (threads t) choice timer' task) :
    Guarded timer' (Function.update threads t task) := by
  obtain ⟨marked, revokes, revoked, seen⟩ := guarded
  generalize here : threads t = before at moved
  simp only [Respects, here] at respects
  have stages := fun u => (threads u).deletes_stages
  cases moved with
  | delete => exact absurd rfl only
  | arm expires | lookPending expires env | storeExpires expires pending env
  | create expires pending env _ | createFailed expires pending env _
  | undoActive expires pending env =>
    constructor <;> grind -ring -linarith
  | storeActive expires pending env =>
    have undeleted : ∀ u, (threads u).deletes DelPc.revokes = false := respects
    constructor <;> grind -ring -linarith
  | incGeneration expires pending env | undoGeneration expires pending env =>
    obtain ⟨marks, stale⟩ := respects
    simp only [KeepsMarks, KeepsStale] at marks stale
    have unclaimed : ∀ u, (threads u).deletes DelPc.revoked = true →
        ∀ v, (threads v).claims (timer.generation + 1) = false := fun u revoked =>
      stale ⟨u, revoked⟩
    have past : ∀ v, (threads v).marked (timer.generation + 1) = true →
        (threads v).claims (timer.generation + 1) = false →
          (threads v).marked timer.generation = true := fun v marked unclaimed =>
      Task.marked_of_not_claims marked unclaimed timer.generation
    constructor <;> grind -ring -linarith
  | delLook pc pc' env before after =>
    constructor <;> grind -ring -linarith
  | delIncrement pending env =>
    obtain ⟨marks, stale⟩ := respects
    simp only [KeepsMarks, KeepsStale] at marks stale
    have past : ∀ v, (threads v).marked (timer.generation + 1) = true →
        (threads v).claims (timer.generation + 1) = false →
          (threads v).marked timer.generation = true := fun v marked unclaimed =>
      Task.marked_of_not_claims marked unclaimed timer.generation
    constructor <;> grind -ring -linarith
  | delClear pending env | delSpin pending env _ | delReturn pending env | delSeen pending env _ =>
    constructor <;> grind -ring -linarith
  | wait pc pc' vars env before after =>
    have unclaimed : (Task.worker pc').claims timer.generation = false := by
      cases pc' <;> simp at after <;> rfl
    have unmarked : (Task.worker pc').marked timer.generation = false := by
      cases pc' <;> simp at after <;> rfl
    constructor <;> grind -ring -linarith
  | begin _ | sample env | sampleExpires generation env | idle vars env _ | found vars env _
  | stale vars env _ | current vars env _ | setRunning vars env | clearActive vars env
  | fire vars env _ | refuse vars env _ | enter env | leave env =>
    constructor <;> grind -ring -linarith
  | clearRunning env =>
    have unmarked : ∀ u, (threads u).marked timer.generation = false := respects
    constructor <;> grind -ring -linarith

/-- One task calls `del_timer_sync`, as the only one, and returns from it, in a run all of whose
steps meet a condition. -/
structure DelCall (ok : Tasks Id → Id × Choice → Prop) (t : Id) (before last after : Tasks Id) :
    Prop where
  /-- Nobody has deleted the timer before. -/
  reached : tasks.Reach (fun p a => a.2 ≠ .delete ∧ ok p a) before
  /-- The call begins, and other tasks go on. -/
  called : ∃ begun, Pool.step exec before (t, .delete) = some begun ∧
    tasks.Path (fun p a => a.2 ≠ .delete ∧ ok p a) begun last
  /-- The call is at its last step. -/
  waited : ∃ pending, last.threads t = .deleting (.storeExpires pending)
  /-- The call returns. -/
  returned : ∃ env, Pool.step exec last (t, .go env) = some after

/-- A step that is not of `mod_timer`, and begins no deletion. -/
def NoMod (p : Tasks Id) (a : Id × Choice) : Prop :=
  a.2 ≠ .delete ∧ (∀ expires, a.2 ≠ .arm expires) ∧ ∀ expires pc, p.threads a.1 ≠ .arming expires pc

/-- No task but one is in `del_timer_sync`. -/
def Sole (t : Id) (threads : Id → Task) : Prop :=
  ∀ u, u ≠ t → ∀ pc, threads u ≠ .deleting pc

/-- A task gets into `del_timer_sync` by calling it. -/
theorem Moved.undeleted {timer timer' : TimerList} {before task : Task} {choice : Choice}
    (moved : Moved timer before choice timer' task) (only : choice ≠ .delete)
    (free : ∀ pc, before ≠ .deleting pc) (pc : DelPc) : task ≠ .deleting pc := by
  cases moved with
  | delete => exact absurd rfl only
  | delLook | delClear | delIncrement | delSpin | delSeen => exact absurd rfl (free _)
  | _ => simp

/-- A step that begins no deletion keeps one task the sole one. -/
theorem Sole.step {timer timer' : TimerList} {threads : Id → Task} {t u : Id} {choice : Choice}
    {task : Task} (sole : Sole t threads) (only : choice ≠ .delete)
    (moved : Moved timer (threads u) choice timer' task) :
    Sole t (Function.update threads u task) := by
  intro v apart pc
  by_cases same : v = u
  · subst same
    rw [Function.update_self]
    exact moved.undeleted only (sole v apart) pc
  · rw [Function.update_of_ne same]
    exact sole v apart pc

/-- Nobody enters the function of a stopped timer as long as it is not armed and nobody deletes
it. -/
theorem Stopped.step {timer timer' : TimerList} {threads : Id → Task} {t : Id} {choice : Choice}
    {task : Task} (stopped : Stopped timer threads)
    (unarming : ∀ expires pc, threads t ≠ .arming expires pc)
    (undeleting : ∀ pc, threads t ≠ .deleting pc)
    (moved : Moved timer (threads t) choice timer' task) :
    Stopped timer' (Function.update threads t task) := by
  obtain ⟨inactive, unclaimed, unmarked⟩ := stopped
  generalize here : threads t = before at moved
  cases moved with
  | lookPending | storeExpires | storeActive | incGeneration | create | createFailed | undoActive
  | undoGeneration => exact absurd here (unarming _ _)
  | delLook | delClear | delIncrement | delSpin | delSeen | delReturn =>
    exact absurd here (undeleting _)
  | wait pc pc' vars env before after =>
    have claimless : (Task.worker pc').claims timer.generation = false := by
      cases pc' <;> simp at after <;> rfl
    have markless : (Task.worker pc').marked timer.generation = false := by
      cases pc' <;> simp at after <;> rfl
    constructor <;> grind -ring -linarith
  | arm _ | delete | begin _ | sample env | sampleExpires generation env | idle vars env _
  | found vars env _ | stale vars env _ | current vars env _ | setRunning vars env
  | clearActive vars env | fire vars env _ | refuse vars env _ | enter env | leave env
  | clearRunning env =>
    constructor <;> grind -ring -linarith

/-- The course of the only `del_timer_sync` call of a run. -/
structure Course (t : Id) (p : Tasks Id) : Prop where
  /-- The flags are truthful. -/
  guarded : Guarded p.shared p.threads
  /-- Nobody else deletes the timer. -/
  sole : Sole t p.threads

/-- Every respecting step keeps the course. -/
theorem Course.step {t : Id} {p q : Tasks Id} {a : Id × Choice} (course : Course t p)
    (only : a.2 ≠ .delete) (respects : Respects p a) (stepped : Pool.step exec p a = some q) :
    Course t q := by
  obtain ⟨timer, task, ran, rfl⟩ := Pool.step_eq_some.mp stepped
  have moved := exec_moved ran
  exact ⟨course.guarded.step respects only moved, course.sole.step only moved⟩

omit [DecidableEq Id] in
/-- Nobody has begun to delete a fresh timer. -/
theorem Fresh.course {p : Tasks Id} (fresh : Fresh p) (t : Id) : Course t p := by
  have idle := fresh.idle
  constructor
  · constructor <;> simp [idle, Task.marked, Task.deletes]
  · simp [Sole, idle]

/-- A call that is at its last step has followed its course. -/
theorem DelCall.course {t : Id} {before last after : Tasks Id}
    (call : DelCall Respects t before last after) : Course t last := by
  have course : Course t before :=
    call.reached.invariant (Course t) (fun _ fresh => Fresh.course fresh t)
      fun _ _ _ course ok stepped => course.step ok.1 ok.2 stepped
  obtain ⟨begun, stepped, path⟩ := call.called
  obtain ⟨timer, task, ran, rfl⟩ := Pool.step_eq_some.mp stepped
  obtain ⟨idle, rfl, rfl⟩ : before.threads t = .idle ∧ before.shared = timer ∧
      Task.deleting .loadActive = task := by
    cases here : before.threads t <;> simp [here, exec] at ran
    simpa using ran
  have called : Course t ⟨before.shared,
      Function.update before.threads t (.deleting .loadActive)⟩ := by
    obtain ⟨⟨marked, revokes, revoked, seen⟩, sole⟩ := course
    refine ⟨?_, fun u apart pc => ?_⟩
    · constructor <;> grind -ring -linarith
    · simpa [Function.update_of_ne apart] using sole u apart pc
  exact path.invariant (Course t) called fun _ _ _ course ok stepped =>
    course.step ok.1 ok.2 stepped

/-- When the only `del_timer_sync` call of a respecting run has returned, no worker is inside the
timer function, and none enters it as long as the timer is not armed again. -/
theorem del_timer_sync_stops {t : Id} {before last after : Tasks Id}
    (call : DelCall Respects t before last after) :
    ∀ q, tasks.Path NoMod after q → ∀ u, q.threads u ≠ .worker .inFunc := by
  obtain ⟨⟨marked, revokes, revoked, seen⟩, sole⟩ := call.course
  obtain ⟨pending, here⟩ := call.waited
  obtain ⟨env, returned⟩ := call.returned
  obtain ⟨timer, task, ran, rfl⟩ := Pool.step_eq_some.mp returned
  obtain ⟨rfl, rfl⟩ : { last.shared with expires := 0 } = timer ∧ Task.idle = task := by
    simpa [here, exec, delTimerSync] using ran
  have stopped : Stopped { last.shared with expires := 0 }
      (Function.update last.threads t .idle) := by
    constructor <;> grind -ring -linarith
  have undeleting : ∀ u pc, Function.update last.threads t .idle u ≠ .deleting pc := by
    intro u pc
    by_cases same : u = t
    · simp [same]
    · simpa [Function.update_of_ne same] using sole u same pc
  intro q path u inside
  obtain ⟨stopped, -⟩ := path.invariant
    (fun p => Stopped p.shared p.threads ∧ ∀ u pc, p.threads u ≠ .deleting pc)
    ⟨stopped, undeleting⟩ fun p a q held ok stepped => by
      obtain ⟨stopped, undeleting⟩ := held
      obtain ⟨timer, task, ran, rfl⟩ := Pool.step_eq_some.mp stepped
      have moved := exec_moved ran
      refine ⟨stopped.step ok.2.2 (undeleting a.1) moved, fun u pc => ?_⟩
      by_cases same : u = a.1
      · subst same
        simpa using moved.undeleted ok.1 (undeleting a.1) pc
      · simpa [Function.update_of_ne same] using undeleting u pc
  have unmarked := stopped.unmarked u
  simp [inside, Task.marked, WorkerPc.marked] at unmarked

/-- Whether the next step of a task respects the workers and the deletion is decided by
evaluation. -/
instance Task.decidableRespects [Fintype Id] (p : Tasks Id) :
    (task : Task) → Decidable (task.Respects p)
  | .arming _ pc => match pc with
    | .storeActive _ => inferInstanceAs (Decidable (∀ _, _ = false))
    | .incGeneration _ | .undoGeneration _ =>
      inferInstanceAs (Decidable ((∀ _, _ = true → _ = true) ∧ ((∃ _, _ = true) → ∀ _, _ = false)))
    | .loadActive | .storeExpires _ | .create _ | .undoActive _ => .isTrue trivial
  | .deleting pc => match pc with
    | .incGeneration _ => inferInstanceAs (Decidable ((∀ _, _ = true → _ = true) ∧ ∀ _, _ = false))
    | .loadActive | .loadRunning | .clearActive _ | .spin _ | .storeExpires _ => .isTrue trivial
  | .worker pc => match pc with
    | .clearRunning => inferInstanceAs (Decidable (∀ _, _ = false))
    | .loadGeneration | .loadExpires _ | .loopActive _ | .loopGeneration _ | .loopTime _
    | .checkActive _ | .checkGeneration _ | .setRunning _ | .clearActive _ | .checkFinal _
    | .call | .inFunc => .isTrue trivial
  | .idle => .isTrue trivial

/-- Whether a step respects the workers and the deletion is decided by evaluation. -/
instance decidableRespects [Fintype Id] (p : Tasks Id) (a : Id × Choice) :
    Decidable (Respects p a) :=
  Task.decidableRespects p (p.threads a.1)

/-- A deletion by the client: what comes before the call, what comes between the call and its
last step, and how the tasks stand when it has returned. -/
def deletion (ok : Tasks (Fin 3) → Fin 3 × Choice → Prop) [∀ p a, Decidable (ok p a)]
    (earlier during : List (Fin 3 × Choice)) : Option (Bool × List Task) :=
  (tasks.runWith (fun p a => a.2 ≠ .delete ∧ ok p a) fresh earlier).bind fun before =>
    (Pool.step exec before (0, .delete)).bind fun begun =>
      (tasks.runWith (fun p a => a.2 ≠ .delete ∧ ok p a) begun during).bind fun last =>
        (Pool.step exec last (0, .go ⟨true, 0⟩)).map fun after =>
          ((last.threads 0).deletes DelPc.seen, List.ofFn after.threads)

/-- An executed deletion is a call. -/
theorem exists_of_deletion {ok : Tasks (Fin 3) → Fin 3 × Choice → Prop}
    [∀ p a, Decidable (ok p a)] {earlier during : List (Fin 3 × Choice)} {left : List Task}
    (ran : deletion ok earlier during = some (true, left)) :
    ∃ before last after, DelCall ok 0 before last after ∧ List.ofFn after.threads = left := by
  obtain ⟨before, earlier, ran⟩ := Option.bind_eq_some_iff.mp ran
  obtain ⟨begun, called, ran⟩ := Option.bind_eq_some_iff.mp ran
  obtain ⟨last, during, ran⟩ := Option.bind_eq_some_iff.mp ran
  obtain ⟨after, returned, seen⟩ := Option.map_eq_some_iff.mp ran
  obtain ⟨seen, rfl⟩ := Prod.mk.inj seen
  have waited : ∃ pending, last.threads 0 = .deleting (.storeExpires pending) := by
    cases here : last.threads 0 with
    | deleting pc => cases pc <;> simp_all [Task.deletes, DelPc.seen]
    | idle | arming | worker => simp [here, Task.deletes] at seen
  exact ⟨before, last, after, ⟨⟨fresh, fresh_fresh, System.path_of_runWith earlier⟩,
    ⟨begun, called, System.path_of_runWith during⟩, waited, _, returned⟩, rfl⟩

/-- The timer is deleted while its worker is inside the function: the call waits for it. -/
theorem executing_deleted : ∃ before last after : Tasks (Fin 3),
    DelCall Respects 0 before last after ∧
    ∀ q, tasks.Path NoMod after q → ∀ u, q.threads u ≠ .worker .inFunc := by
  have ran : deletion Respects (arm ++ (1, .begin) :: go 11 1) (go 5 0 ++ go 2 1 ++ go 1 0) =
      some (true, [.idle, .idle, .idle]) := by
    decide +kernel
  obtain ⟨before, last, after, call, -⟩ := exists_of_deletion ran
  exact ⟨before, last, after, call, del_timer_sync_stops call⟩

/-- The timer is armed again while its first worker is past its checks. The second worker is
inside the function when the first one, which does not fire, takes the mark away: a deletion
does not wait for the second one. -/
theorem unmarked_deleted : ¬∀ (t : Fin 3) (before last after : Tasks (Fin 3)),
    DelCall (fun _ _ => True) t before last after →
      ∀ q, tasks.Path NoMod after q → ∀ u, q.threads u ≠ .worker .inFunc := by
  intro always
  have ran : deletion (fun _ _ => True)
      (arm ++ (1, .begin) :: go 7 1 ++ arm ++ (2, .begin) :: go 11 2 ++ go 4 1) (go 5 0) =
        some (true, [.idle, .idle, .worker .inFunc]) := by
    decide +kernel
  obtain ⟨before, last, after, call, threads⟩ := exists_of_deletion ran
  obtain ⟨-, -, inside⟩ : _ ∧ _ ∧ after.threads 2 = .worker .inFunc := by
    simpa [List.ofFn_succ] using threads
  exact always 0 before last after call after (.refl after) 2 inside

end Lcompat.Timer
